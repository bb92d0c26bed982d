import X424.Client.Programs
import X424.Foundation.Tokens

/-!
# What an agent's signature covers

A request is accepted on the lines of its signature base: no covered value can
be moved to another component, so two requests with the same two signature
headers have the same values.
-/

namespace X424

open Foundation

/-! ## Accepted requests -/

structure AgentVerification.Accepts (options : AgentVerification)
    (createHash : List UInt8 → List UInt8) (request : Request)
    (parameters : AgentSignatureParameters) (key : ResolvedAgentKey)
    (base signature : List UInt8) : Prop where
  parsed : parseParameters request = .ok parameters
  window : options.InWindow parameters
  nonce : ∀ nonce, options.expectedNonce = some nonce → nonce = parameters.nonce
  components : parameters.components = signatureComponents request
  digest : request.body.isSome = true → request.headers.get contentDigestHeader =
    some (contentDigest createHash request.content)
  resolved : options.resolveKey parameters.keyId parameters.algorithm request = .ok (some key)
  keyId : key.keyId = parameters.keyId
  algorithm : key.algorithm = parameters.algorithm
  signed : signatureBase request parameters.components parameters.serialized = .ok base
  carried : parseSignature request = .ok signature
  verified : key.verify base signature = .ok true

section Accepted

variable {createHash : List UInt8 → List UInt8} {request : Request} {options : AgentVerification}
  {parameters : AgentSignatureParameters} {key : ResolvedAgentKey} {binding : HumanBinding}

theorem ResolvedAgentKey.accepts_eq_ok :
    key.accepts request parameters = .ok true ↔
      key.keyId = parameters.keyId ∧ key.algorithm = parameters.algorithm ∧
        ∃ base signature,
          signatureBase request parameters.components parameters.serialized = .ok base ∧
            parseSignature request = .ok signature ∧ key.verify base signature = .ok true := by
  rw [ResolvedAgentKey.accepts]
  split
  · rename_i hother
    constructor
    · intro h
      cases h
    · rintro ⟨hkeyId, halgorithm, -⟩
      exact hother.elim (absurd hkeyId) (absurd halgorithm)
  · rename_i hsame
    rw [not_or, not_not, not_not] at hsame
    constructor
    · intro h
      obtain ⟨base, hbase, h⟩ := bind_eq_ok.mp h
      obtain ⟨signature, hsignature, h⟩ := bind_eq_ok.mp h
      exact ⟨hsame.1, hsame.2, base, signature, hbase, hsignature, h⟩
    · rintro ⟨-, -, base, signature, hbase, hsignature, h⟩
      exact bind_eq_ok.mpr ⟨base, hbase, bind_eq_ok.mpr ⟨signature, hsignature, h⟩⟩

theorem verifyX424AgentRequest_eq_ok :
    verifyX424AgentRequest createHash request options = .ok binding ↔
      ∃ parameters key base signature,
        options.Accepts createHash request parameters key base signature ∧
          binding = ⟨.agentKey, parameters.keyId⟩ := by
  constructor
  · intro h
    obtain ⟨parameters, hparsed, h⟩ := bind_eq_ok.mp h
    split_ifs at h with hwindow hnonce hcomponents hdigest
    obtain ⟨found, hresolved, h⟩ := bind_eq_ok.mp h
    cases found with
    | none => cases h
    | some key =>
        obtain ⟨accepted, haccepted, h⟩ := bind_eq_ok.mp h
        cases accepted with
        | false => cases h
        | true =>
            obtain ⟨hkeyId, halgorithm, base, signature, hbase, hsignature, hverified⟩ :=
              ResolvedAgentKey.accepts_eq_ok.mp haccepted
            refine ⟨parameters, key, base, signature, ?_, (Except.ok.inj h).symm⟩
            refine ⟨hparsed, hwindow, ?_, not_not.mp hcomponents, ?_, hresolved, hkeyId,
              halgorithm, hbase, hsignature, hverified⟩
            · intro nonce hexpected
              simpa [hexpected] using hnonce
            · intro hbody
              rw [not_and, not_not] at hdigest
              exact hdigest hbody
  · rintro ⟨parameters, key, base, signature, haccepts, rfl⟩
    refine bind_eq_ok.mpr ⟨parameters, haccepts.parsed, ?_⟩
    have hnonce : ¬ options.expectedNonce.any (· != parameters.nonce) = true := by
      cases hexpected : options.expectedNonce with
      | none => nofun
      | some nonce => simp [haccepts.nonce nonce hexpected]
    have hdigest : ¬ (request.body.isSome ∧ request.headers.get contentDigestHeader ≠
        some (contentDigest createHash request.content)) := fun h => h.2 (haccepts.digest h.1)
    rw [if_neg (not_not.mpr haccepts.window), if_neg hnonce,
      if_neg (not_not.mpr haccepts.components), if_neg hdigest]
    have haccepted : key.accepts request parameters = .ok true :=
      ResolvedAgentKey.accepts_eq_ok.mpr ⟨haccepts.keyId, haccepts.algorithm, base, signature,
        haccepts.signed, haccepts.carried, haccepts.verified⟩
    exact bind_eq_ok.mpr ⟨some key, haccepts.resolved, bind_eq_ok.mpr ⟨true, haccepted, rfl⟩⟩

end Accepted

/-! ## Lines -/

def isLineUnit (u : UInt16) : Bool := u ≤ 0xFF && u != 0x0A

def IsLine (text : JsString) : Prop := ∀ u ∈ text, isLineUnit u = true

theorem IsLine.append {s t : JsString} (hs : IsLine s) (ht : IsLine t) : IsLine (s ++ t) :=
  List.forall_mem_append.mpr ⟨hs, ht⟩

theorem IsLine.isText {text : JsString} (h : IsLine text) : IsText text := by
  refine isText_below fun u hu => ?_
  have hunit := h u hu
  rw [isLineUnit, Bool.and_eq_true, decide_eq_true_eq] at hunit
  exact UInt16.lt_of_le_of_lt hunit.1 (by decide)

theorem isLine_of_printable {text : JsString} (h : ∀ u ∈ text, isPrintable u = true) :
    IsLine text := by
  intro u hu
  have hunit := h u hu
  simp only [isPrintable, isLineUnit, Bool.and_eq_true, decide_eq_true_eq, bne_iff_ne, ne_eq,
    UInt16.le_iff_toNat_le, UInt16.reduceToNat] at hunit ⊢
  refine ⟨by omega, ?_⟩
  rintro rfl
  exact absurd hunit.1 (by decide)

theorem isPrintable_of_token {u : UInt16} (h : isTokenUnit u = true) : isPrintable u = true := by
  have hmarks : ∀ u ∈ js "!#$%&'*+-.|~", isPrintable u = true :=
    List.all_eq_true.mp (by decide)
  rw [isTokenUnit, Bool.or_eq_true] at h
  rcases h with h | h
  · simp only [isPrintable, Bool.or_eq_true, Bool.and_eq_true, decide_eq_true_eq,
      UInt16.le_iff_toNat_le, UInt16.reduceToNat] at h ⊢
    omega
  · exact hmarks u (List.contains_iff_mem.mp h)

theorem isPrintable_asciiLower {text : JsString} (h : ∀ u ∈ text, isPrintable u = true) :
    ∀ u ∈ asciiLower text, isPrintable u = true := by
  intro v hv
  obtain ⟨u, hu, rfl⟩ := List.mem_map.mp hv
  split
  · rename_i hupper
    simp only [isPrintable, Bool.and_eq_true, decide_eq_true_eq, UInt16.le_iff_toNat_le,
      UInt16.toNat_add, UInt16.reduceToNat] at hupper ⊢
    omega
  · exact h u hu

theorem Request.isLine_method (request : Request) : IsLine (asciiLower request.method) := by
  have htoken := request.method_token
  rw [isToken, Bool.and_eq_true, List.all_eq_true] at htoken
  exact isLine_of_printable
    (isPrintable_asciiLower fun u hu => isPrintable_of_token (htoken.2 u hu))

theorem Headers.isLine_get {headers : Headers} {name value : JsString}
    (h : headers.get name = some value) : IsLine value := by
  intro u hu
  have hvalue := List.all_eq_true.mp
    (headers.values (asciiLower name, value) (mem_of_lookup (headers.get_eq name ▸ h))) u hu
  simp only [Bool.and_eq_true] at hvalue
  rw [isLineUnit, Bool.and_eq_true]
  exact ⟨hvalue.1.1.1, hvalue.1.2⟩

theorem mem_of_mem_trim {text : JsString} {u : UInt16} (h : u ∈ trim text) : u ∈ text := by
  rw [trim, List.mem_reverse] at h
  have hreverse := (List.dropWhile_sublist _).mem h
  exact (List.dropWhile_sublist _).mem (List.mem_reverse.mp hreverse)

/-! ## The base -/

section Base

variable {request : Request} {component serialized line value : JsString}
  {components lines : List JsString} {base : List UInt8}

theorem quoted_eq_ok {text : JsString} (h : quoted value = .ok text) :
    (∀ u ∈ value, isPrintable u = true) ∧
      text = quoteMark :: (escapeQuoted value ++ [quoteMark]) := by
  rw [quoted] at h
  split_ifs at h with hvalue
  exact ⟨List.all_eq_true.mp hvalue, (Except.ok.inj h).symm⟩

theorem isLine_quoted {text : JsString} (h : quoted value = .ok text) : IsLine text := by
  obtain ⟨hvalue, rfl⟩ := quoted_eq_ok h
  refine isLine_of_printable fun u hu => ?_
  rw [List.mem_cons, List.mem_append, List.mem_singleton] at hu
  rcases hu with rfl | hu | rfl
  · decide
  · obtain ⟨v, hv, hu⟩ := List.mem_flatMap.mp hu
    split at hu
    · rw [List.mem_cons, List.mem_singleton] at hu
      rcases hu with rfl | rfl
      · decide
      · exact hvalue _ hv
    · rw [List.mem_singleton.mp hu]
      exact hvalue _ hv
  · decide

theorem isLine_componentValue (h : componentValue request component = .ok value) :
    IsLine value := by
  rw [componentValue] at h
  split_ifs at h with hmethod htarget
  · cases h
    exact request.isLine_method
  · cases h
    exact isLine_of_printable request.url_printable
  · split at h
    · cases h
    · rename_i found hfound
      split_ifs at h
      cases h
      exact fun u hu => Headers.isLine_get hfound u (mem_of_mem_trim hu)

theorem componentLine_eq_ok :
    componentLine request component = .ok line ↔
      ∃ name value, quoted component = .ok name ∧ componentValue request component = .ok value ∧
        line = name ++ js ": " ++ value := by
  constructor
  · intro h
    obtain ⟨name, hname, h⟩ := bind_eq_ok.mp h
    obtain ⟨value, hvalue, h⟩ := bind_eq_ok.mp h
    exact ⟨name, value, hname, hvalue, (Except.ok.inj h).symm⟩
  · rintro ⟨name, value, hname, hvalue, rfl⟩
    exact bind_eq_ok.mpr ⟨name, hname, bind_eq_ok.mpr ⟨value, hvalue, rfl⟩⟩

theorem isLine_componentLine (h : componentLine request component = .ok line) : IsLine line := by
  obtain ⟨name, value, hname, hvalue, rfl⟩ := componentLine_eq_ok.mp h
  exact ((isLine_quoted hname).append
    (isLine_of_printable (List.all_eq_true.mp (by decide)))).append
    (isLine_componentValue hvalue)

theorem mapM_eq_ok {α β : Type} {f : α → Except JsError β} {xs : List α} {ys : List β} :
    xs.mapM f = .ok ys ↔ List.Forall₂ (fun x y => f x = .ok y) xs ys := by
  induction xs generalizing ys with
  | nil =>
      rw [List.mapM_nil, List.forall₂_nil_left_iff]
      exact ⟨fun h => (Except.ok.inj h).symm, fun h => h ▸ rfl⟩
  | cons x xs ih =>
      rw [List.mapM_cons, List.forall₂_cons_left_iff]
      constructor
      · intro h
        obtain ⟨y, hy, h⟩ := bind_eq_ok.mp h
        obtain ⟨rest, hrest, h⟩ := bind_eq_ok.mp h
        exact ⟨y, rest, hy, ih.mp hrest, (Except.ok.inj h).symm⟩
      · rintro ⟨y, rest, hy, hrest, rfl⟩
        exact bind_eq_ok.mpr ⟨y, hy, bind_eq_ok.mpr ⟨rest, ih.mpr hrest, rfl⟩⟩

theorem mapM_congr {α β : Type} {f g : α → Except JsError β} {xs : List α}
    (h : ∀ x ∈ xs, f x = g x) : xs.mapM f = xs.mapM g := by
  induction xs with
  | nil => rfl
  | cons x xs ih =>
      rw [List.forall_mem_cons] at h
      rw [List.mapM_cons, List.mapM_cons, h.1, ih h.2]

theorem signatureBase_eq_ok :
    signatureBase request components serialized = .ok base ↔
      ∃ lines, List.Forall₂ (fun component line => componentLine request component = .ok line)
          components lines ∧
        base = utf8 ([0x0A].intercalate (lines ++ [parametersLine serialized])) := by
  constructor
  · intro h
    obtain ⟨lines, hlines, h⟩ := bind_eq_ok.mp h
    exact ⟨lines, mapM_eq_ok.mp hlines, (Except.ok.inj h).symm⟩
  · rintro ⟨lines, hlines, rfl⟩
    exact bind_eq_ok.mpr ⟨lines, mapM_eq_ok.mpr hlines, rfl⟩

theorem isText_intercalate {texts : List JsString} (h : ∀ text ∈ texts, IsLine text) :
    IsText ([0x0A].intercalate texts) := by
  induction texts with
  | nil => exact ⟨[], rfl⟩
  | cons text texts ih =>
      rw [List.forall_mem_cons] at h
      cases texts with
      | nil =>
          rw [List.intercalate_singleton]
          exact h.1.isText
      | cons next texts =>
          rw [List.intercalate_cons_cons]
          exact (h.1.isText.append
            (isText_below (List.forall_mem_singleton.mpr (by decide)))).append (ih h.2)

theorem intercalate_injective {texts texts' : List JsString} (h : ∀ text ∈ texts, IsLine text)
    (h' : ∀ text ∈ texts', IsLine text) (hne : texts ≠ []) (hne' : texts' ≠ [])
    (heq : [0x0A].intercalate texts = [0x0A].intercalate texts') : texts = texts' := by
  have hbreak : ∀ text, IsLine text → (0x0A : UInt16) ∉ text := fun text htext hmem =>
    absurd (htext _ hmem) (by decide)
  rw [← List.splitOn_intercalate 0x0A (fun text hmem => hbreak text (h text hmem)) hne, heq,
    List.splitOn_intercalate 0x0A (fun text hmem => hbreak text (h' text hmem)) hne']

theorem isLine_baseLines (hserialized : IsLine serialized)
    (h : List.Forall₂ (fun component line => componentLine request component = .ok line)
      components lines) :
    ∀ line ∈ lines ++ [parametersLine serialized], IsLine line := by
  rw [List.forall_mem_append, List.forall_mem_singleton]
  constructor
  · induction h with
    | nil => exact nofun
    | cons hline _ ih => exact List.forall_mem_cons.mpr ⟨isLine_componentLine hline, ih⟩
  · exact (isLine_of_printable (List.all_eq_true.mp (by decide))).append hserialized

theorem componentValue_of_signatureBase {request' : Request} (hserialized : IsLine serialized)
    (h : signatureBase request components serialized = .ok base)
    (h' : signatureBase request' components serialized = .ok base) :
    ∀ component ∈ components, ∃ value, componentValue request component = .ok value ∧
      componentValue request' component = .ok value := by
  obtain ⟨lines, hlines, rfl⟩ := signatureBase_eq_ok.mp h
  obtain ⟨lines', hlines', hbase⟩ := signatureBase_eq_ok.mp h'
  have hall := isLine_baseLines hserialized hlines
  have hall' := isLine_baseLines hserialized hlines'
  have htexts := utf8_injective (isText_intercalate hall) (isText_intercalate hall') hbase
  have hsame : lines = lines' := List.append_cancel_right
    (intercalate_injective hall hall' (by simp) (by simp) htexts)
  subst hsame
  clear hall hall' htexts hbase h h'
  induction hlines with
  | nil => exact nofun
  | cons hline _ ih =>
      obtain ⟨hline', hrest⟩ := List.forall₂_cons.mp hlines'
      refine List.forall_mem_cons.mpr ⟨?_, ih hrest⟩
      obtain ⟨name, value, hname, hvalue, rfl⟩ := componentLine_eq_ok.mp hline
      obtain ⟨name', value', hname', hvalue', heq⟩ := componentLine_eq_ok.mp hline'
      cases hname.symm.trans hname'
      cases List.append_cancel_left heq
      exact ⟨value, hvalue, hvalue'⟩

theorem componentValue_header (h : componentValue request component = .ok value)
    (hmethod : component ≠ js "@method") (htarget : component ≠ js "@target-uri") :
    ∃ found, request.headers.get component = some found ∧ value = trim found := by
  rw [componentValue, if_neg hmethod, if_neg htarget] at h
  split at h
  · cases h
  · rename_i found hfound
    split_ifs at h
    exact ⟨found, hfound, (Except.ok.inj h).symm⟩

theorem mem_signatureComponents :
    component ∈ signatureComponents request ↔
      component = js "@method" ∨ component = js "@target-uri" ∨
        (request.body.isSome = true ∧ component = contentDigestHeader) ∨
        (request.headers.has humanProofHeader = true ∧ component = humanProofHeader) ∨
        (request.headers.has paymentSignatureHeader = true ∧
          component = paymentSignatureHeader) := by
  simp only [signatureComponents, List.mem_append, List.mem_cons, List.not_mem_nil, or_false,
    List.mem_ite_nil_right, or_assoc]

end Base

/-! ## Digests -/

theorem urlUnit_standardUnit {u : UInt16} (h : isBase64UrlUnit u = true) :
    urlUnit (standardUnit u) = u ∧ isBase64Unit (standardUnit u) = true ∧
      standardUnit u ≠ 0x3D := by
  by_cases hdash : u = 0x2D
  · subst hdash
    decide
  by_cases hline : u = 0x5F
  · subst hline
    decide
  have hplain : standardUnit u = u := by rw [standardUnit, if_neg hdash, if_neg hline]
  have hplus : u ≠ 0x2B := by
    rintro rfl
    exact absurd h (by decide)
  have hslash : u ≠ 0x2F := by
    rintro rfl
    exact absurd h (by decide)
  have hurl : urlUnit u = u := by rw [urlUnit, if_neg hplus, if_neg hslash]
  rw [hplain, isBase64Unit, hurl, h]
  refine ⟨rfl, by simp [hdash, hline], ?_⟩
  rintro rfl
  exact absurd h (by decide)

theorem encoded_spec (bytes : List UInt8) {u : UInt16} (h : u ∈ encodeStrictBase64Url bytes) :
    urlUnit (standardUnit u) = u ∧ isBase64Unit (standardUnit u) = true ∧ standardUnit u ≠ 0x3D :=
  urlUnit_standardUnit (List.all_eq_true.mp (all_encodeStrictBase64Url bytes) u h)

theorem bufferFromBase64_base64 (bytes : List UInt8) :
    bufferFromBase64 (base64 bytes) = bytes := by
  have htake : (base64 bytes).takeWhile (· != 0x3D) =
      (encodeStrictBase64Url bytes).map standardUnit := by
    rw [base64, List.takeWhile_append_of_pos]
    · cases (3 - bytes.length % 3) % 3 with
      | zero => exact List.append_nil _
      | succ n => exact List.append_nil _
    · intro v hv
      obtain ⟨u, hu, rfl⟩ := List.mem_map.mp hv
      exact bne_iff_ne.mpr (encoded_spec bytes hu).2.2
  have hurl : ((encodeStrictBase64Url bytes).map standardUnit).map urlUnit =
      encodeStrictBase64Url bytes := by
    rw [List.map_map]
    exact (List.map_congr_left (g := id) fun u hu => (encoded_spec bytes hu).1).trans
      (List.map_id _)
  have hlength : (encodeStrictBase64Url bytes).length % 4 ≠ 1 := by
    rw [length_encodeStrictBase64Url]
    omega
  rw [bufferFromBase64, htake, hurl, if_neg hlength, atob_encodeStrictBase64Url, Option.getD_some]

theorem trim_eq_self {text : JsString} (hhead : text.head?.all (!isTrimmed ·) = true)
    (hlast : text.getLast?.all (!isTrimmed ·) = true) : trim text = text :=
  strip_eq_self hhead hlast

theorem normalizeValue_eq_self {text : JsString}
    (hhead : text.head?.all (!isHttpWhitespace ·) = true)
    (hlast : text.getLast?.all (!isHttpWhitespace ·) = true) : normalizeValue text = text :=
  strip_eq_self hhead hlast

theorem trim_contentDigest (createHash : List UInt8 → List UInt8) (bytes : List UInt8) :
    trim (contentDigest createHash bytes) = contentDigest createHash bytes := by
  refine trim_eq_self rfl ?_
  rw [contentDigest, js, List.getLast?_append]
  rfl

theorem contentDigest_injective {createHash : List UInt8 → List UInt8}
    (hhash : Function.Injective createHash) : Function.Injective (contentDigest createHash) := by
  intro bytes bytes' h
  have hbase : base64 (createHash bytes) = base64 (createHash bytes') :=
    List.append_cancel_left (List.append_cancel_right h)
  refine hhash ?_
  rw [← bufferFromBase64_base64 (createHash bytes), hbase, bufferFromBase64_base64]

/-! ## Requests with the same signature -/

def ResolvedAgentKey.Unforgeable (key : ResolvedAgentKey) : Prop :=
  ∀ signature base base', key.verify base signature = .ok true →
    key.verify base' signature = .ok true → base = base'

def AgentVerification.AcceptsUnder (options : AgentVerification)
    (createHash : List UInt8 → List UInt8) (request : Request) (key : ResolvedAgentKey) : Prop :=
  (∃ binding, verifyX424AgentRequest createHash request options = .ok binding) ∧
    ∃ parameters, parseParameters request = .ok parameters ∧
      options.resolveKey parameters.keyId parameters.algorithm request = .ok (some key)

section SameSignature

variable {createHash : List UInt8 → List UInt8} {request request' : Request}
  {options options' : AgentVerification} {parameters : AgentSignatureParameters}
  {key : ResolvedAgentKey} {base signature : List UInt8}

theorem AgentVerification.AcceptsUnder.accepts (h : options.AcceptsUnder createHash request key) :
    ∃ parameters base signature,
      options.Accepts createHash request parameters key base signature := by
  obtain ⟨⟨binding, haccepted⟩, parameters, hparsed, hresolved⟩ := h
  obtain ⟨found, resolved, base, signature, haccepts, -⟩ :=
    verifyX424AgentRequest_eq_ok.mp haccepted
  cases haccepts.parsed.symm.trans hparsed
  cases haccepts.resolved.symm.trans hresolved
  exact ⟨_, base, signature, haccepts⟩

structure AgentSignatureParameters.ReadFrom (parameters : AgentSignatureParameters)
    (params : JsString) : Prop where
  created : findParameter (js "created") readDecimal params = some parameters.created
  keyId : findParameter (js "keyid") readQuoted params = some parameters.keyId
  nonce : findParameter (js "nonce") readQuoted params = some parameters.nonce

theorem requiredParameter_eq_ok {α : Type} {name : JsString} {value : Option α} {found : α} :
    requiredParameter name value = .ok found ↔ value = some found := by
  cases value with
  | none => exact ⟨fun h => (nomatch h), fun h => (nomatch h)⟩
  | some value => exact Except.ok.injEq value found ▸ (Option.some.injEq value found ▸ Iff.rfl)

theorem parseSerialized_eq_ok {serialized : JsString}
    (h : parseSerialized serialized = .ok parameters) :
    parameters.serialized = serialized ∧
      ∃ list params, splitList serialized = some (list, params) ∧ parameters.ReadFrom params := by
  rw [parseSerialized] at h
  split at h
  · cases h
  · rename_i list params hsplit
    obtain ⟨components, -, h⟩ := bind_eq_ok.mp h
    obtain ⟨algorithm, -, h⟩ := bind_eq_ok.mp h
    obtain ⟨tag, -, h⟩ := bind_eq_ok.mp h
    split_ifs at h
    obtain ⟨created, hcreated, h⟩ := bind_eq_ok.mp h
    obtain ⟨expires, -, h⟩ := bind_eq_ok.mp h
    obtain ⟨keyId, hkeyId, h⟩ := bind_eq_ok.mp h
    obtain ⟨nonce, hnonce, h⟩ := bind_eq_ok.mp h
    cases h
    exact ⟨rfl, list, params, hsplit, requiredParameter_eq_ok.mp hcreated,
      requiredParameter_eq_ok.mp hkeyId, requiredParameter_eq_ok.mp hnonce⟩

theorem parseParameters_eq_ok (h : parseParameters request = .ok parameters) :
    ∃ input, request.headers.get signatureInputHeader = some input ∧
      parseSerialized (input.drop (agentSignatureLabel.length + 1)) = .ok parameters := by
  rw [parseParameters] at h
  split at h
  · cases h
  · rename_i input hinput
    split_ifs at h
    exact ⟨input, hinput, h⟩

theorem isLine_serialized (h : parseParameters request = .ok parameters) :
    IsLine parameters.serialized := by
  obtain ⟨input, hinput, hparsed⟩ := parseParameters_eq_ok h
  rw [(parseSerialized_eq_ok hparsed).1]
  exact fun u hu => Headers.isLine_get hinput u (List.mem_of_mem_drop hu)

structure SameBase (createHash : List UInt8 → List UInt8) (request request' : Request) : Prop where
  components : signatureComponents request = signatureComponents request'
  values : ∀ component ∈ signatureComponents request,
    ∃ value, componentValue request component = .ok value ∧
      componentValue request' component = .ok value
  digest : request.body.isSome = true → request.headers.get contentDigestHeader =
    some (contentDigest createHash request.content)
  digest' : request'.body.isSome = true → request'.headers.get contentDigestHeader =
    some (contentDigest createHash request'.content)

theorem sameBase_of_accepted (hunforgeable : key.Unforgeable)
    (h : options.AcceptsUnder createHash request key)
    (h' : options'.AcceptsUnder createHash request' key)
    (hinput : request.headers.get signatureInputHeader =
      request'.headers.get signatureInputHeader)
    (hsignature : request.headers.get signatureHeader = request'.headers.get signatureHeader) :
    SameBase createHash request request' := by
  obtain ⟨parameters, base, signature, haccepts⟩ := h.accepts
  obtain ⟨parameters', base', signature', haccepts'⟩ := h'.accepts
  have hparsed : parseParameters request = parseParameters request' := by
    rw [parseParameters, parseParameters, hinput]
  have hcarried : parseSignature request = parseSignature request' := by
    rw [parseSignature, parseSignature, hsignature]
  cases haccepts.parsed.symm.trans (hparsed.trans haccepts'.parsed)
  cases haccepts.carried.symm.trans (hcarried.trans haccepts'.carried)
  cases hunforgeable signature base base' haccepts.verified haccepts'.verified
  refine ⟨haccepts.components.symm.trans haccepts'.components, ?_, haccepts.digest,
    haccepts'.digest⟩
  rw [← haccepts.components]
  exact componentValue_of_signatureBase (isLine_serialized haccepts.parsed) haccepts.signed
    haccepts'.signed

theorem contentDigest_mem :
    contentDigestHeader ∈ signatureComponents request ↔ request.body.isSome = true := by
  simp +decide [mem_signatureComponents]

theorem humanProof_mem : humanProofHeader ∈ signatureComponents request ↔
    request.headers.has humanProofHeader = true := by
  simp +decide [mem_signatureComponents]

theorem paymentSignature_mem : paymentSignatureHeader ∈ signatureComponents request ↔
    request.headers.has paymentSignatureHeader = true := by
  simp +decide [mem_signatureComponents]

theorem SameBase.trimmed {name : JsString} (h : SameBase createHash request request')
    (hmem : name ∈ signatureComponents request ↔ request.headers.has name = true)
    (hmem' : name ∈ signatureComponents request' ↔ request'.headers.has name = true)
    (hmethod : name ≠ js "@method") (htarget : name ≠ js "@target-uri") :
    (request.headers.get name).map trim = (request'.headers.get name).map trim := by
  cases hname : request.headers.has name with
  | false =>
      have hname' : request'.headers.has name = false := by
        rw [Bool.eq_false_iff, Ne, ← hmem', ← h.components, hmem, hname]
        exact Bool.false_ne_true
      rw [Headers.has, Option.isSome_eq_false_iff, Option.isNone_iff_eq_none] at hname hname'
      rw [hname, hname']
  | true =>
      obtain ⟨value, hvalue, hvalue'⟩ := h.values name (hmem.mpr hname)
      obtain ⟨found, hfound, rfl⟩ := componentValue_header hvalue hmethod htarget
      obtain ⟨found', hfound', heq⟩ := componentValue_header hvalue' hmethod htarget
      rw [hfound, hfound', Option.map_some, Option.map_some, heq]

theorem SameBase.body (h : SameBase createHash request request')
    (hhash : Function.Injective createHash) : request.body = request'.body := by
  have hsome : request.body.isSome = true ↔ request'.body.isSome = true := by
    rw [← contentDigest_mem, h.components, contentDigest_mem]
  cases hbody : request.body with
  | none =>
      have hbody' : ¬ request'.body.isSome = true := by
        rw [← hsome, hbody]
        exact Bool.false_ne_true
      rw [Option.isSome_iff_ne_none, not_not] at hbody'
      rw [hbody']
  | some bytes =>
      have hpresent : request.body.isSome = true := by rw [hbody, Option.isSome_some]
      obtain ⟨bytes', hbytes'⟩ := Option.isSome_iff_exists.mp (hsome.mp hpresent)
      obtain ⟨value, hvalue, hvalue'⟩ := h.values _ (contentDigest_mem.mpr hpresent)
      obtain ⟨found, hfound, rfl⟩ := componentValue_header hvalue (by decide) (by decide)
      obtain ⟨found', hfound', heq⟩ := componentValue_header hvalue' (by decide) (by decide)
      rw [h.digest hpresent, Option.some.injEq] at hfound
      rw [h.digest' (hsome.mp hpresent), Option.some.injEq] at hfound'
      rw [← hfound, ← hfound', trim_contentDigest, trim_contentDigest, Request.content,
        Request.content, hbody, hbytes'] at heq
      rw [hbytes']
      exact congrArg some (contentDigest_injective hhash heq)

/-- Accepted requests with one signature have the same covered values. -/
theorem covered_values_agree (hhash : Function.Injective createHash)
    (hunforgeable : key.Unforgeable) (h : options.AcceptsUnder createHash request key)
    (h' : options'.AcceptsUnder createHash request' key)
    (hinput : request.headers.get signatureInputHeader =
      request'.headers.get signatureInputHeader)
    (hsignature : request.headers.get signatureHeader = request'.headers.get signatureHeader) :
    asciiLower request.method = asciiLower request'.method ∧ request.url = request'.url ∧
      request.body = request'.body ∧
      (request.headers.get humanProofHeader).map trim =
        (request'.headers.get humanProofHeader).map trim ∧
      (request.headers.get paymentSignatureHeader).map trim =
        (request'.headers.get paymentSignatureHeader).map trim := by
  have hsame := sameBase_of_accepted hunforgeable h h' hinput hsignature
  have hmethod : js "@method" ∈ signatureComponents request :=
    mem_signatureComponents.mpr (.inl rfl)
  have htarget : js "@target-uri" ∈ signatureComponents request :=
    mem_signatureComponents.mpr (.inr (.inl rfl))
  obtain ⟨method, heq, heq'⟩ := hsame.values _ hmethod
  obtain ⟨url, hurl, hurl'⟩ := hsame.values _ htarget
  refine ⟨?_, ?_, hsame.body hhash,
    hsame.trimmed humanProof_mem humanProof_mem (by decide) (by decide),
    hsame.trimmed paymentSignature_mem paymentSignature_mem (by decide) (by decide)⟩
  · exact Except.ok.inj (heq.trans heq'.symm)
  · exact Except.ok.inj (hurl.trans hurl'.symm)

end SameSignature

/-! ## A padded proof -/

namespace PaddedProof

def content : List UInt8 := [0x68, 0x69]

def digest : List UInt8 :=
  [0x8F, 0x43, 0x43, 0x46, 0x64, 0x8F, 0x6B, 0x96, 0xDF, 0x89, 0xDD, 0xA9, 0x01, 0xC5, 0x17, 0x6B,
    0x10, 0xA6, 0xD8, 0x39, 0x61, 0xDD, 0x3C, 0x1A, 0xC8, 0x8B, 0x59, 0xB2, 0xDC, 0x32, 0x7A, 0xA4]

def createHash : List UInt8 → List UInt8 := Equiv.swap content digest

def signatureInput : JsString :=
  js "x424-agent=(\"@method\" \"@target-uri\" \"content-digest\" \"human-proof\")" ++
    js ";created=100;expires=160;keyid=\"k\";alg=\"ed25519\";nonce=\"n\";tag=\"x424-agent\""

def headers (humanProof : JsString) (h : isHeaderValue humanProof = true) : Headers where
  entries :=
    [(contentDigestHeader, js "sha-256=:j0NDRmSPa5bfid2pAcUXaxCm2Dlh3TwayItZstwyeqQ=:"),
      (humanProofHeader, humanProof), (signatureInputHeader, signatureInput),
      (signatureHeader, js "x424-agent=:AA==:")]
  values := by
    simp only [List.forall_mem_cons, h, true_and]
    decide

theorem url_printable : ∀ u ∈ js "https://api.example/act", isPrintable u = true :=
  List.all_eq_true.mp (by decide)

def request (humanProof : JsString) (h : isHeaderValue humanProof = true) : Request where
  method := js "POST"
  url := js "https://api.example/act"
  headers := headers humanProof h
  body := some content
  redirect := .manual
  credentials := .sameOrigin
  cache := .default
  integrity := []
  keepalive := false
  mode := .cors
  referrer := js "about:client"
  referrerPolicy := []
  bodyUsed := false
  method_token := isToken_post
  url_printable := url_printable

def plain : Request := request (js "p") (by decide)

/-- A no-break space is a byte of a header value that `String.prototype.trim` removes. -/
def padded : Request := request [0x70, 0xA0] (by decide)

def base : List UInt8 :=
  (signatureBase plain (signatureComponents plain) (signatureInput.drop 11)).toOption.getD []

def key : ResolvedAgentKey where
  keyId := js "k"
  algorithm := .ed25519
  verify signed signature := .ok (decide (signed = base ∧ signature = [0]))

def options : AgentVerification where
  resolveKey _ _ _ := .ok (some key)
  expectedNonce := some (js "n")
  now := 130000
  clockSkewSeconds := none

theorem key_unforgeable : key.Unforgeable := by
  intro signature signed signed' h h'
  have hsigned := of_decide_eq_true (Except.ok.inj h)
  have hsigned' := of_decide_eq_true (Except.ok.inj h')
  exact hsigned.1.trans hsigned'.1.symm

def binding : HumanBinding := ⟨.agentKey, js "k"⟩

theorem acceptsUnder {sent : Request}
    (h : verifyX424AgentRequest createHash sent options = .ok binding) :
    options.AcceptsUnder createHash sent key := by
  obtain ⟨parameters, found, signed, signature, haccepts, -⟩ := verifyX424AgentRequest_eq_ok.mp h
  exact ⟨⟨binding, h⟩, parameters, haccepts.parsed, rfl⟩

theorem plain_accepted : options.AcceptsUnder createHash plain key :=
  acceptsUnder (by decide +kernel)

theorem padded_accepted : options.AcceptsUnder createHash padded key :=
  acceptsUnder (by decide +kernel)

theorem createHash_injective : Function.Injective createHash := Equiv.injective _

end PaddedProof

theorem padded_values_agree :
    asciiLower PaddedProof.plain.method = asciiLower PaddedProof.padded.method ∧
      PaddedProof.plain.url = PaddedProof.padded.url ∧
      PaddedProof.plain.body = PaddedProof.padded.body ∧
      (PaddedProof.plain.headers.get humanProofHeader).map trim =
        (PaddedProof.padded.headers.get humanProofHeader).map trim ∧
      (PaddedProof.plain.headers.get paymentSignatureHeader).map trim =
        (PaddedProof.padded.headers.get paymentSignatureHeader).map trim :=
  covered_values_agree PaddedProof.createHash_injective PaddedProof.key_unforgeable
    PaddedProof.plain_accepted PaddedProof.padded_accepted rfl rfl

/-- The padding of a proof is not covered. -/
theorem padding_not_covered :
    Function.Injective PaddedProof.createHash ∧ PaddedProof.key.Unforgeable ∧
      PaddedProof.options.AcceptsUnder PaddedProof.createHash PaddedProof.plain
        PaddedProof.key ∧
      PaddedProof.options.AcceptsUnder PaddedProof.createHash PaddedProof.padded
        PaddedProof.key ∧
      PaddedProof.plain.headers.get signatureInputHeader =
        PaddedProof.padded.headers.get signatureInputHeader ∧
      PaddedProof.plain.headers.get signatureHeader =
        PaddedProof.padded.headers.get signatureHeader ∧
      PaddedProof.plain.headers.get humanProofHeader ≠
        PaddedProof.padded.headers.get humanProofHeader :=
  ⟨PaddedProof.createHash_injective, PaddedProof.key_unforgeable, PaddedProof.plain_accepted,
    PaddedProof.padded_accepted, rfl, rfl, by decide⟩

end X424
