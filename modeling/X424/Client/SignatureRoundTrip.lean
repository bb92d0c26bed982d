import X424.Client.SignatureLaws

/-!
# What an agent signs can be verified

The parameters are written with escapes and read with regular expressions that
know of none, so a key id or a nonce with a quote or a backslash is not found
again.  Every other signed request is accepted.
-/

namespace X424

open Foundation

/-! ## Finding a parameter -/

section Find

variable {α : Type} {name value rest : JsString} {read : JsString → Option α}

def parameterAt (name : JsString) (read : JsString → Option α) (text : JsString) : Option α :=
  if (name ++ js "=").isPrefixOf text then read (text.drop (name.length + 1)) else none

theorem findParameter_eq (name : JsString) (read : JsString → Option α) (params : JsString) :
    findParameter name read params =
      (params :: afterSemicolons params).findSome? (parameterAt name read) := rfl

theorem parameterAt_self (name : JsString) (read : JsString → Option α) (text : JsString) :
    parameterAt name read (name ++ js "=" ++ text) = read text := by
  have hdrop : (name ++ js "=" ++ text).drop (name.length + 1) = text := by
    rw [List.drop_append_of_le_length (by simp [js, codeUnits]), List.drop_of_length_le]
    · rfl
    · simp [js, codeUnits]
  rw [parameterAt, if_pos (List.isPrefixOf_iff_prefix.mpr (List.prefix_append _ _)), hdrop]

theorem afterSemicolons_append (h : (0x3B : UInt16) ∉ value) (rest : JsString) :
    afterSemicolons (value ++ rest) = afterSemicolons rest := by
  induction value with
  | nil => rfl
  | cons u value ih =>
      rw [List.mem_cons, not_or] at h
      rw [List.cons_append, afterSemicolons, if_neg (Ne.symm h.1), ih h.2]

theorem readQuoted_field (h : quoteMark ∉ value) (rest : JsString) :
    readQuoted (quoteMark :: (value ++ quoteMark :: rest)) =
      if endsParameter rest = true then some value else none := by
  have hunits : ∀ u ∈ value, (u != quoteMark) = true := fun u hu =>
    bne_iff_ne.mpr fun heq => h (heq ▸ hu)
  have hdrop : (value ++ quoteMark :: rest).dropWhile (· != quoteMark) = quoteMark :: rest := by
    rw [List.dropWhile_append_of_pos hunits]
    rfl
  have htake : (value ++ quoteMark :: rest).takeWhile (· != quoteMark) = value := by
    rw [List.takeWhile_append_of_pos hunits]
    exact List.append_nil value
  rw [readQuoted, hdrop, htake]
  simp only [List.head?_cons, List.drop_succ_cons, List.drop_zero, true_and]

theorem not_mem_readQuoted {text : JsString} (h : readQuoted text = some value) :
    quoteMark ∉ value := by
  cases text with
  | nil => cases h
  | cons u text =>
      rw [readQuoted] at h
      split_ifs at h
      cases h
      intro hmem
      exact absurd (List.all_eq_true.mp List.all_takeWhile _ hmem) (by decide)

theorem parameterAt_inside (hname : quoteMark ∉ name) (hvalue : quoteMark ∉ value)
    (hclose : readQuoted (quoteMark :: rest) = none) :
    parameterAt name readQuoted (value ++ quoteMark :: rest) = none := by
  rw [parameterAt]
  split
  · rename_i hprefix
    have hequals : quoteMark ∉ name ++ js "=" := by
      rw [List.mem_append, not_or]
      exact ⟨hname, by decide⟩
    have hinside : name ++ js "=" <+: value := by
      have hshort : value ++ [quoteMark] <+: value ++ quoteMark :: rest :=
        ⟨rest, by rw [List.append_assoc, List.singleton_append]⟩
      rcases List.prefix_or_prefix_of_prefix (List.isPrefixOf_iff_prefix.mp hprefix) hshort with
        hin | hout
      · rcases List.prefix_concat_iff.mp hin with heq | hin
        · exact absurd (heq ▸ List.mem_append_right _ (List.mem_singleton_self _)) hequals
        · exact hin
      · exact absurd (hout.subset (List.mem_append_right _ (List.mem_singleton_self _))) hequals
    obtain ⟨tail, rfl⟩ := hinside
    have hlength : name.length + 1 = (name ++ js "=").length := by simp [js, codeUnits]
    rw [hlength, List.append_assoc, List.drop_left]
    cases tail with
    | nil => exact hclose
    | cons u tail =>
        have hu : u ≠ quoteMark := fun heq => hvalue (by simp [heq])
        rw [List.cons_append, readQuoted, if_neg fun h => hu h.1]
  · rfl

theorem findSome_inside (hname : quoteMark ∉ name) (hvalue : quoteMark ∉ value)
    (hclose : readQuoted (quoteMark :: rest) = none) :
    (afterSemicolons (value ++ quoteMark :: rest)).findSome? (parameterAt name readQuoted) =
      (afterSemicolons rest).findSome? (parameterAt name readQuoted) := by
  induction value with
  | nil => rfl
  | cons u value ih =>
      rw [List.mem_cons, not_or] at hvalue
      rw [List.cons_append, afterSemicolons]
      split
      · rw [List.findSome?_cons, parameterAt_inside hname hvalue.2 hclose]
        exact ih hvalue.2
      · exact ih hvalue.2

end Find

/-! ## Numbers -/

theorem writeWhole_decimal {n : Nat} {u : UInt16} (h : u ∈ writeWhole n) : isDecimal u = true :=
  writeWhole_units h

theorem readDecimal_nonneg {text : JsString} {n : Int} (h : readDecimal text = some n) : 0 ≤ n := by
  rw [readDecimal] at h
  split_ifs at h
  obtain ⟨value, hvalue, rfl⟩ := Option.map_eq_some_iff.mp h
  rw [readWhole] at hvalue
  split_ifs at hvalue
  cases hvalue
  rw [Rat.num_natCast]
  exact Int.natCast_nonneg _

theorem readDecimal_integerText {n : Int} (h : 0 ≤ n) {rest : JsString}
    (hrest : rest.head? = some 0x3B) : readDecimal (integerText n ++ rest) = some n := by
  obtain ⟨value, rfl⟩ := Int.eq_ofNat_of_zero_le h
  have htext : integerText (value : Int) = writeWhole value := by
    rw [integerText, if_neg (not_lt.mpr h), Int.natAbs_natCast]
  have hunits : ∀ u ∈ writeWhole value, isDecimal u = true := fun u hu => writeWhole_decimal hu
  have hnone : ∀ rest : JsString, rest.head? = some 0x3B →
      rest.takeWhile isDecimal = [] ∧ rest.dropWhile isDecimal = rest := by
    intro rest hrest
    cases rest with
    | nil => cases hrest
    | cons u rest =>
        cases hrest
        exact ⟨rfl, rfl⟩
  have hends : endsParameter rest = true := by rw [endsParameter, hrest]; rfl
  rw [htext, readDecimal, List.dropWhile_append_of_pos hunits, List.takeWhile_append_of_pos hunits,
    (hnone rest hrest).1, (hnone rest hrest).2, if_pos hends, List.append_nil,
    readWhole_writeWhole, Option.map_some, Rat.num_natCast]

theorem not_mem_integerText (n : Int) : (0x3B : UInt16) ∉ integerText n := by
  have hwhole : (0x3B : UInt16) ∉ writeWhole (n.natAbs : Nat) := fun h =>
    absurd (writeWhole_decimal h) (by decide)
  rw [integerText]
  split
  · rw [List.mem_cons, not_or]
    exact ⟨by decide, hwhole⟩
  · exact hwhole

/-! ## The parameters of a signature -/

def field (name text : JsString) : JsString := name ++ js "=" ++ text

def parameterTexts (created expires : Int) (keyId algorithm nonce : JsString) : JsString :=
  0x3B :: field (js "created") (integerText created ++
    0x3B :: field (js "expires") (integerText expires ++
      0x3B :: field (js "keyid") (quoteMark :: (keyId ++ quoteMark ::
        0x3B :: field (js "alg") (quoteMark :: (algorithm ++ quoteMark ::
          0x3B :: field (js "nonce") (quoteMark :: (nonce ++ quoteMark ::
            0x3B :: field (js "tag") (js "\"x424-agent\"")))))))))

section Scan

variable {α : Type} {name other value text rest : JsString} {read : JsString → Option α}

def scan (name : JsString) (read : JsString → Option α) (text : JsString) : Option α :=
  (text :: afterSemicolons text).findSome? (parameterAt name read)

theorem findParameter_semicolon (h : parameterAt name read (0x3B :: text) = none) :
    findParameter name read (0x3B :: text) = scan name read text := by
  rw [findParameter_eq, List.findSome?_cons, h]
  rfl

theorem scan_self {found : α} (h : read text = some found) :
    scan name read (field name text) = some found := by
  rw [scan, List.findSome?_cons, field, parameterAt_self, h]

theorem scan_other (h : parameterAt name read (field other (value ++ 0x3B :: rest)) = none)
    (hother : (0x3B : UInt16) ∉ other ++ js "=") (hvalue : (0x3B : UInt16) ∉ value) :
    scan name read (field other (value ++ 0x3B :: rest)) = scan name read rest := by
  rw [scan, List.findSome?_cons, h, field, afterSemicolons_append hother,
    afterSemicolons_append hvalue]
  rfl

theorem scan_quoted
    (h : parameterAt name readQuoted
      (field other (quoteMark :: (value ++ quoteMark :: 0x3B :: rest))) = none)
    (hother : (0x3B : UInt16) ∉ other ++ js "=") (hname : quoteMark ∉ name)
    (hvalue : quoteMark ∉ value) (hclose : readQuoted (quoteMark :: 0x3B :: rest) = none) :
    scan name readQuoted (field other (quoteMark :: (value ++ quoteMark :: 0x3B :: rest))) =
      scan name readQuoted rest := by
  rw [scan, List.findSome?_cons, h, field, afterSemicolons_append hother]
  change (afterSemicolons (value ++ quoteMark :: 0x3B :: rest)).findSome? _ = _
  rw [findSome_inside hname hvalue hclose]
  rfl

theorem scan_plain
    (h : parameterAt name read
      (field other (quoteMark :: (value ++ quoteMark :: 0x3B :: rest))) = none)
    (hother : (0x3B : UInt16) ∉ other ++ js "=") (hvalue : (0x3B : UInt16) ∉ value) :
    scan name read (field other (quoteMark :: (value ++ quoteMark :: 0x3B :: rest))) =
      scan name read rest := by
  have hquoted : quoteMark :: (value ++ quoteMark :: 0x3B :: rest) =
      (quoteMark :: (value ++ [quoteMark])) ++ 0x3B :: rest := by
    rw [List.cons_append, List.append_assoc, List.singleton_append]
  rw [hquoted] at h ⊢
  refine scan_other h hother ?_
  rw [List.mem_cons, List.mem_append, List.mem_singleton]
  exact not_or_intro (by decide) (not_or_intro hvalue (by decide))

/-- A quote before the next parameter opens nothing, because that one is quoted as well. -/
theorem readQuoted_between (hother : quoteMark ∉ other) (hends : endsParameter text = false) :
    readQuoted (quoteMark :: 0x3B :: field other (quoteMark :: text)) = none := by
  have hinside : quoteMark ∉ (0x3B : UInt16) :: (other ++ js "=") := by
    rw [List.mem_cons, List.mem_append]
    exact not_or_intro (by decide) (not_or_intro hother (by decide))
  have hread := readQuoted_field hinside text
  rw [hends] at hread
  exact hread

end Scan

section Parameters

variable {created expires : Int} {keyId nonce : JsString} {algorithm : AgentSignatureAlgorithm}

theorem findParameter_created (hcreated : 0 ≤ created) :
    findParameter (js "created") readDecimal
      (parameterTexts created expires keyId algorithm.text nonce) = some created := by
  rw [parameterTexts, findParameter_semicolon rfl]
  exact scan_self (readDecimal_integerText hcreated rfl)

theorem findParameter_expires (hexpires : 0 ≤ expires) :
    findParameter (js "expires") readDecimal
      (parameterTexts created expires keyId algorithm.text nonce) = some expires := by
  rw [parameterTexts, findParameter_semicolon rfl,
    scan_other rfl (by decide) (not_mem_integerText created)]
  exact scan_self (readDecimal_integerText hexpires rfl)

theorem findParameter_keyId (hkeyId : quoteMark ∉ keyId) :
    findParameter (js "keyid") readQuoted
      (parameterTexts created expires keyId algorithm.text nonce) = some keyId := by
  rw [parameterTexts, findParameter_semicolon rfl,
    scan_other rfl (by decide) (not_mem_integerText created),
    scan_other rfl (by decide) (not_mem_integerText expires)]
  exact scan_self ((readQuoted_field hkeyId _).trans (if_pos rfl))

theorem not_mem_algorithm : quoteMark ∉ algorithm.text := by cases algorithm <;> decide

theorem endsParameter_algorithm (rest : JsString) :
    endsParameter (algorithm.text ++ rest) = false := by
  cases algorithm <;> rfl

theorem findParameter_algorithm (hkeyId : quoteMark ∉ keyId) :
    findParameter (js "alg") readQuoted
      (parameterTexts created expires keyId algorithm.text nonce) = some algorithm.text := by
  rw [parameterTexts, findParameter_semicolon rfl,
    scan_other rfl (by decide) (not_mem_integerText created),
    scan_other rfl (by decide) (not_mem_integerText expires),
    scan_quoted rfl (by decide) (by decide) hkeyId
      (readQuoted_between (by decide) (endsParameter_algorithm _))]
  exact scan_self ((readQuoted_field not_mem_algorithm _).trans (if_pos rfl))

theorem findParameter_nonce (hkeyId : quoteMark ∉ keyId) (hnonce : quoteMark ∉ nonce) :
    findParameter (js "nonce") readQuoted
      (parameterTexts created expires keyId algorithm.text nonce) = some nonce := by
  have halgorithm : (0x3B : UInt16) ∉ algorithm.text := by cases algorithm <;> decide
  rw [parameterTexts, findParameter_semicolon rfl,
    scan_other rfl (by decide) (not_mem_integerText created),
    scan_other rfl (by decide) (not_mem_integerText expires),
    scan_quoted rfl (by decide) (by decide) hkeyId
      (readQuoted_between (by decide) (endsParameter_algorithm _)),
    scan_plain rfl (by decide) halgorithm]
  exact scan_self ((readQuoted_field hnonce _).trans (if_pos rfl))

theorem findParameter_tag (hkeyId : quoteMark ∉ keyId) (hnonce : quoteMark ∉ nonce) :
    findParameter (js "tag") readQuoted
      (parameterTexts created expires keyId algorithm.text nonce) = some (js "x424-agent") := by
  have halgorithm : (0x3B : UInt16) ∉ algorithm.text := by cases algorithm <;> decide
  have hclose : readQuoted (quoteMark :: 0x3B :: field (js "tag") (js "\"x424-agent\"")) = none :=
    rfl
  rw [parameterTexts, findParameter_semicolon rfl,
    scan_other rfl (by decide) (not_mem_integerText created),
    scan_other rfl (by decide) (not_mem_integerText expires),
    scan_quoted rfl (by decide) (by decide) hkeyId
      (readQuoted_between (by decide) (endsParameter_algorithm _)),
    scan_plain rfl (by decide) halgorithm,
    scan_quoted rfl (by decide) (by decide) hnonce hclose]
  exact scan_self rfl

end Parameters

/-! ## The list of components -/

def componentsFor (body humanProof paymentSignature : Bool) : List JsString :=
  [js "@method", js "@target-uri"] ++ (if body then [contentDigestHeader] else []) ++
    (if humanProof then [humanProofHeader] else []) ++
    (if paymentSignature then [paymentSignatureHeader] else [])

theorem readComponents_componentsFor (body humanProof paymentSignature : Bool) :
    ∃ names, (componentsFor body humanProof paymentSignature).mapM quoted = .ok names ∧
      (0x29 : UInt16) ∉ [0x20].intercalate names ∧
      readComponents ([0x20].intercalate names) =
        .ok (componentsFor body humanProof paymentSignature) := by
  cases body <;> cases humanProof <;> cases paymentSignature <;>
    exact ⟨_, rfl, by decide +kernel, by decide +kernel⟩

/-! ## Escaped texts -/

def Unescaped (value : JsString) : Prop := quoteMark ∉ value ∧ backslash ∉ value

theorem escapeQuoted_cons (u : UInt16) (value : JsString) :
    escapeQuoted (u :: value) =
      (if u = quoteMark ∨ u = backslash then [backslash, u] else [u]) ++ escapeQuoted value :=
  List.flatMap_cons

theorem quoteMark_mem_escapeQuoted {value : JsString} :
    quoteMark ∈ escapeQuoted value ↔ quoteMark ∈ value := by
  induction value with
  | nil => exact Iff.rfl
  | cons u value ih =>
      rw [escapeQuoted_cons, List.mem_append, ih, List.mem_cons]
      refine or_congr_left ?_
      split
      · rw [List.mem_cons, List.mem_singleton]
        exact or_iff_right (by decide)
      · exact List.mem_singleton

theorem length_escapeQuoted (value : JsString) : value.length ≤ (escapeQuoted value).length := by
  induction value with
  | nil => exact le_rfl
  | cons u value ih =>
      rw [escapeQuoted_cons]
      split <;> simp only [List.length_cons, List.length_append, List.length_nil] <;> omega

theorem escapeQuoted_eq_self {value : JsString} : escapeQuoted value = value ↔ Unescaped value := by
  induction value with
  | nil => exact iff_of_true rfl ⟨List.not_mem_nil, List.not_mem_nil⟩
  | cons u value ih =>
      rw [escapeQuoted_cons, Unescaped, List.mem_cons, List.mem_cons]
      split
      · rename_i hescaped
        refine iff_of_false (fun h => ?_) fun h => ?_
        · have hlength := congrArg List.length h
          simp only [List.length_append, List.length_cons, List.length_nil] at hlength
          exact absurd (length_escapeQuoted value) (by omega)
        · exact hescaped.elim (fun hu => h.1 (.inl hu.symm)) fun hu => h.2 (.inl hu.symm)
      · rename_i hplain
        rw [not_or] at hplain
        rw [List.singleton_append, List.cons.injEq, ih, Unescaped]
        exact ⟨fun h => ⟨not_or_intro (Ne.symm hplain.1) h.2.1,
            not_or_intro (Ne.symm hplain.2) h.2.2⟩,
          fun h => ⟨rfl, fun hmem => h.1 (.inr hmem), fun hmem => h.2 (.inr hmem)⟩⟩

/-! ## The text of the parameters -/

section Serialized

variable {created expires : Int} {signer : AgentRequestSigner} {nonce serialized keyId : JsString}
  {algorithm : AgentSignatureAlgorithm} {components names : List JsString}

/-- The value of `Signature-Input`, behind the label. -/
def serializedTexts (names : List JsString) (created expires : Int)
    (keyId algorithm nonce : JsString) : JsString :=
  0x28 :: ([0x20].intercalate names ++
    0x29 :: parameterTexts created expires keyId algorithm nonce)

theorem escapeQuoted_algorithm : escapeQuoted algorithm.text = algorithm.text := by
  cases algorithm <;> rfl

theorem serializeParameters_eq_ok
    (h : serializeParameters components created expires signer nonce = .ok serialized) :
    ∃ names, components.mapM quoted = .ok names ∧
      serialized = serializedTexts names created expires (escapeQuoted signer.keyId)
        signer.algorithm.text (escapeQuoted nonce) := by
  obtain ⟨names, hnames, h⟩ := bind_eq_ok.mp h
  obtain ⟨keyText, hkeyId, h⟩ := bind_eq_ok.mp h
  obtain ⟨algorithmText, halgorithm, h⟩ := bind_eq_ok.mp h
  obtain ⟨nonceText, hnonce, h⟩ := bind_eq_ok.mp h
  obtain ⟨-, rfl⟩ := quoted_eq_ok hkeyId
  obtain ⟨-, rfl⟩ := quoted_eq_ok halgorithm
  obtain ⟨-, rfl⟩ := quoted_eq_ok hnonce
  refine ⟨names, hnames, (Except.ok.inj h).symm.trans ?_⟩
  rw [escapeQuoted_algorithm, serializedTexts, parameterTexts]
  simp only [List.append_assoc, List.cons_append, field]
  rfl

theorem splitList_serializedTexts (hlist : (0x29 : UInt16) ∉ [0x20].intercalate names) :
    splitList (serializedTexts names created expires keyId algorithm.text nonce) =
      some ([0x20].intercalate names,
        parameterTexts created expires keyId algorithm.text nonce) := by
  have hunits : ∀ u ∈ (0x28 : UInt16) :: [0x20].intercalate names, (u != 0x29) = true := by
    intro u hu
    rw [bne_iff_ne]
    rintro rfl
    rcases List.mem_cons.mp hu with heq | hu
    · exact absurd heq (by decide)
    · exact hlist hu
  have htake := @List.takeWhile_append_of_pos _ _ _
    (0x29 :: parameterTexts created expires keyId algorithm.text nonce) hunits
  have hdrop := @List.dropWhile_append_of_pos _ _ _
    (0x29 :: parameterTexts created expires keyId algorithm.text nonce) hunits
  have hmem : (0x29 : UInt16) ∈ serializedTexts names created expires keyId algorithm.text nonce :=
    List.mem_cons_of_mem _ (List.mem_append_right _ List.mem_cons_self)
  rw [splitList, if_pos ⟨rfl, hmem⟩, serializedTexts, ← List.cons_append, htake, hdrop]
  simp

theorem parseSerialized_serializedTexts
    (hread : readComponents ([0x20].intercalate names) = .ok components)
    (hlist : (0x29 : UInt16) ∉ [0x20].intercalate names) (hcreated : 0 ≤ created)
    (hexpires : 0 ≤ expires) (hkeyId : quoteMark ∉ keyId) (hnonce : quoteMark ∉ nonce) :
    parseSerialized (serializedTexts names created expires keyId algorithm.text nonce) =
      .ok
        { components, created, expires, keyId, algorithm, nonce
          serialized := serializedTexts names created expires keyId algorithm.text nonce } := by
  have halgorithm : (stringParameter (js "alg")
      (parameterTexts created expires keyId algorithm.text nonce) >>= readAlgorithm) =
        .ok algorithm := by
    refine bind_eq_ok.mpr
      ⟨algorithm.text, requiredParameter_eq_ok.mpr (findParameter_algorithm hkeyId), ?_⟩
    cases algorithm <;> rfl
  rw [parseSerialized, splitList_serializedTexts hlist]
  refine bind_eq_ok.mpr ⟨components, hread, bind_eq_ok.mpr ⟨algorithm, halgorithm,
    bind_eq_ok.mpr ⟨js "x424-agent",
      requiredParameter_eq_ok.mpr (findParameter_tag hkeyId hnonce), ?_⟩⟩⟩
  rw [if_neg (not_not.mpr rfl)]
  exact bind_eq_ok.mpr
    ⟨created, requiredParameter_eq_ok.mpr (findParameter_created hcreated), bind_eq_ok.mpr
      ⟨expires, requiredParameter_eq_ok.mpr (findParameter_expires hexpires), bind_eq_ok.mpr
        ⟨keyId, requiredParameter_eq_ok.mpr (findParameter_keyId hkeyId), bind_eq_ok.mpr
          ⟨nonce, requiredParameter_eq_ok.mpr (findParameter_nonce hkeyId hnonce), rfl⟩⟩⟩⟩

end Serialized

/-! ## The signature -/

/-- The value of `Signature`. -/
def signatureText (signature : List UInt8) : JsString :=
  agentSignatureLabel ++ js "=:" ++ base64 signature ++ js ":"

theorem matchSignature_signatureText (signature : List UInt8) :
    matchSignature (signatureText signature) =
      if signature = [] then none else some (base64 signature) := by
  have hdrop : (signatureText signature).drop (agentSignatureLabel ++ js "=:").length =
      base64 signature ++ [0x3A] := by
    rw [signatureText, List.append_assoc, List.drop_left]
    rfl
  have hlast : (base64 signature ++ [0x3A]).getLast? = some 0x3A := List.getLast?_concat
  have hunits : ∀ u ∈ (encodeStrictBase64Url signature).map standardUnit,
      isBase64Unit u = true := by
    intro v hv
    obtain ⟨u, hu, rfl⟩ := List.mem_map.mp hv
    exact (encoded_spec signature hu).2.1
  have hpadding : ∀ n : Nat, (List.replicate n (0x3D : UInt16)).takeWhile isBase64Unit = [] ∧
      (List.replicate n (0x3D : UInt16)).dropWhile isBase64Unit = List.replicate n 0x3D := by
    rintro (_ | n) <;> exact ⟨rfl, rfl⟩
  have htake : (base64 signature).takeWhile isBase64Unit =
      (encodeStrictBase64Url signature).map standardUnit := by
    rw [base64, List.takeWhile_append_of_pos hunits, (hpadding _).1, List.append_nil]
  have hrest : (base64 signature).dropWhile isBase64Unit =
      List.replicate ((3 - signature.length % 3) % 3) 0x3D := by
    rw [base64, List.dropWhile_append_of_pos hunits, (hpadding _).2]
  have hlabel : (agentSignatureLabel ++ js "=:").isPrefixOf (signatureText signature) = true := by
    rw [List.isPrefixOf_iff_prefix, signatureText, List.append_assoc]
    exact List.prefix_append _ _
  have hempty : (encodeStrictBase64Url signature).map standardUnit = [] ↔ signature = [] :=
    List.map_eq_nil_iff.trans encodeStrictBase64Url_eq_nil
  have hall : (List.replicate ((3 - signature.length % 3) % 3) (0x3D : UInt16)).all
      (· == 0x3D) = true := List.all_eq_true.mpr fun u hu =>
    beq_iff_eq.mpr (List.eq_of_mem_replicate hu)
  rw [matchSignature, hdrop, List.dropLast_concat, hlast, htake, hrest, hlabel, hall,
    List.length_replicate]
  by_cases hsignature : signature = []
  · rw [if_pos hsignature, if_neg]
    exact fun h => h.2.2.1 (hempty.mpr hsignature)
  · rw [if_neg hsignature, if_pos]
    exact ⟨rfl, rfl, fun h => hsignature (hempty.mp h), by omega, rfl⟩

theorem parseSignature_signatureText {request : Request} {signature : List UInt8}
    (h : request.headers.get signatureHeader = some (signatureText signature)) :
    parseSignature request =
      if signature = [] then .error ⟨js "Missing or invalid x424-agent Signature"⟩
      else .ok signature := by
  rw [parseSignature, h, Option.bind_some, matchSignature_signatureText]
  by_cases hsignature : signature = []
  · rw [if_pos hsignature, if_pos hsignature]
  · rw [if_neg hsignature, if_neg hsignature]
    exact congrArg Except.ok (bufferFromBase64_base64 signature)

/-! ## The signed request -/

section Signed

variable {urls : UrlParser} {createHash : List UInt8 → List UInt8} {request source signed : Request}
  {unsigned : UnsignedRequest} {signature : List UInt8}

theorem getLast_parameterTexts (created expires : Int) (keyId algorithm nonce : JsString) :
    (parameterTexts created expires keyId algorithm nonce).getLast? = some quoteMark := by
  have hlast : (js "\"x424-agent\"").getLast? = some quoteMark := rfl
  simp only [parameterTexts, field, List.getLast?_cons, List.getLast?_append, hlast,
    Option.some_or, Option.getD_some]

theorem normalizeValue_serializedTexts (names : List JsString) (created expires : Int)
    (keyId algorithm nonce : JsString) :
    normalizeValue (agentSignatureLabel ++ js "=" ++
      serializedTexts names created expires keyId algorithm nonce) =
        agentSignatureLabel ++ js "=" ++
          serializedTexts names created expires keyId algorithm nonce := by
  refine normalizeValue_eq_self rfl ?_
  simp only [serializedTexts, List.getLast?_append, List.getLast?_cons,
    getLast_parameterTexts, Option.some_or, Option.getD_some]
  rfl

theorem normalizeValue_signatureText (signature : List UInt8) :
    normalizeValue (signatureText signature) = signatureText signature := by
  refine normalizeValue_eq_self rfl ?_
  rw [signatureText, List.getLast?_append]
  rfl

theorem normalizeValue_contentDigest (createHash : List UInt8 → List UInt8) (bytes : List UInt8) :
    normalizeValue (contentDigest createHash bytes) = contentDigest createHash bytes := by
  refine normalizeValue_eq_self rfl ?_
  rw [contentDigest, js, List.getLast?_append]
  rfl

theorem digestedRequest_digest (h : digestedRequest urls createHash source = .ok request)
    (hbody : request.body.isSome = true) :
    request.headers.get contentDigestHeader = some (contentDigest createHash request.content) := by
  have hresent := (digestedRequest_eq_ok h).1
  obtain ⟨headers, hheaders, h⟩ := bind_eq_ok.mp h
  obtain ⟨copy, hcopy, h⟩ := bind_eq_ok.mp h
  obtain ⟨-, -, -, -, hkept⟩ := Request.new_request_eq_ok rfl rfl h
  rw [hresent.body] at hbody
  rw [digestHeaders, if_pos hbody] at hheaders
  rw [hkept headers rfl, Headers.get_set_self hheaders, normalizeValue_contentDigest,
    Request.content, Request.content, hresent.body]

theorem signedRequest_headers (h : signedRequest urls unsigned signature = .ok signed) :
    signed.headers.get signatureInputHeader =
        some (normalizeValue (agentSignatureLabel ++ js "=" ++ unsigned.serialized)) ∧
      signed.headers.get signatureHeader = some (signatureText signature) := by
  obtain ⟨inputs, hinputs, h⟩ := bind_eq_ok.mp h
  obtain ⟨headers, hheaders, h⟩ := bind_eq_ok.mp h
  obtain ⟨-, -, -, -, hkept⟩ := Request.new_request_eq_ok rfl rfl h
  rw [hkept headers rfl]
  constructor
  · rw [Headers.get_set_of_ne hheaders (by decide), Headers.get_set_self hinputs]
  · exact (Headers.get_set_self hheaders).trans
      (congrArg some (normalizeValue_signatureText signature))

theorem signatureBase_congr {components : List JsString} {serialized : JsString}
    (h : ∀ component ∈ components,
      componentValue request component = componentValue source component) :
    signatureBase request components serialized = signatureBase source components serialized := by
  have hlines : components.mapM (componentLine request) =
      components.mapM (componentLine source) := mapM_congr fun component hmem => by
    rw [componentLine, componentLine, h component hmem]
  rw [signatureBase, signatureBase, hlines]

theorem Request.Resent.componentValue_eq {names : List JsString} {component : JsString}
    (h : source.Resent names request) (hnames : asciiLower component ∉ names) :
    componentValue request component = componentValue source component := by
  rw [componentValue, componentValue, h.method, h.url, h.headers component hnames]

theorem Request.Resent.signatureComponents_eq {names : List JsString}
    (h : source.Resent names request) (hproof : humanProofHeader ∉ names)
    (hpayment : paymentSignatureHeader ∉ names) :
    signatureComponents request = signatureComponents source := by
  rw [signatureComponents, signatureComponents, h.body, Headers.has, Headers.has, Headers.has,
    Headers.has, h.headers humanProofHeader hproof, h.headers paymentSignatureHeader hpayment]

theorem not_mem_of_component {component : JsString}
    (h : component ∈ signatureComponents request) :
    asciiLower component ∉ [signatureInputHeader, signatureHeader] := by
  rcases mem_signatureComponents.mp h with rfl | rfl | ⟨-, rfl⟩ | ⟨-, rfl⟩ | ⟨-, rfl⟩ <;> decide

end Signed

/-! ## Signing and verifying -/

/-- A verifier that knows the key and expects the nonce, at a time within the lifetime. -/
structure AgentVerification.Awaits (options : AgentVerification) (signer : AgentRequestSigner)
    (nonce : JsString) (now : Instant) (lifetime : ℚ) (key : ResolvedAgentKey)
    (signed : Request) : Prop where
  resolved : options.resolveKey signer.keyId signer.algorithm signed = .ok (some key)
  nonce : options.expectedNonce = some nonce
  begun : Int.fdiv now 1000 ≤ Int.fdiv options.now 1000
  lasting : (Int.fdiv options.now 1000 : ℚ) ≤ Int.fdiv now 1000 + lifetime
  skew : 0 ≤ options.clockSkewSeconds.getD 5

section RoundTrip

variable {urls : UrlParser} {createHash : List UInt8 → List UInt8}
  {sign : List UInt8 → Except JsError (List UInt8)} {request signed : Request}
  {signer : AgentRequestSigner} {nonce : JsString} {now : Instant} {lifetime : ℚ}
  {unsigned : UnsignedRequest} {signature : List UInt8} {key : ResolvedAgentKey}
  {options : AgentVerification}

theorem AgentVerification.Awaits.inWindow {parameters : AgentSignatureParameters}
    (h : options.Awaits signer nonce now lifetime key signed)
    (hlifetime : lifetime.den = 1 ∧ 1 ≤ lifetime ∧ lifetime ≤ 60)
    (hcreated : parameters.created = Int.fdiv now 1000)
    (hexpires : parameters.expires = Int.fdiv now 1000 + lifetime.num) :
    options.InWindow parameters := by
  have hnum : (lifetime.num : ℚ) = lifetime := Rat.den_eq_one_iff _ |>.mp hlifetime.1
  have hmin : 1 ≤ lifetime.num := by exact_mod_cast hnum ▸ hlifetime.2.1
  have hmax : lifetime.num ≤ 60 := by exact_mod_cast hnum ▸ hlifetime.2.2
  have hbegun : (Int.fdiv now 1000 : ℚ) ≤ Int.fdiv options.now 1000 := by exact_mod_cast h.begun
  have hlasting := h.lasting
  have hskew := h.skew
  rw [AgentVerification.InWindow, hcreated, hexpires]
  refine ⟨by linarith, ?_, by omega, by omega⟩
  rw [Int.cast_add, hnum]
  linarith

/-- The verifier that knows only this key, at the moment of signing. -/
def AgentVerification.exact (key : ResolvedAgentKey) (nonce : JsString) (now : Instant) :
    AgentVerification where
  resolveKey _ _ _ := .ok (some key)
  expectedNonce := some nonce
  now := now
  clockSkewSeconds := some 0

theorem AgentVerification.exact_awaits (hlifetime : 1 ≤ lifetime) :
    (AgentVerification.exact key nonce now).Awaits signer nonce now lifetime key signed where
  resolved := rfl
  nonce := rfl
  begun := le_rfl
  lasting := by
    change (Int.fdiv now 1000 : ℚ) ≤ _
    linarith
  skew := le_rfl

theorem quoteMark_of_read {name params value : JsString}
    (h : findParameter name readQuoted params = some value) : quoteMark ∉ value := by
  obtain ⟨text, -, hread⟩ := List.exists_of_findSome?_eq_some h
  split at hread
  · exact not_mem_readQuoted hread
  · cases hread

theorem nonneg_of_read {name params : JsString} {value : Int}
    (h : findParameter name readDecimal params = some value) : 0 ≤ value := by
  obtain ⟨text, -, hread⟩ := List.exists_of_findSome?_eq_some h
  split at hread
  · exact readDecimal_nonneg hread
  · cases hread

structure SignedFrom (createHash : List UInt8 → List UInt8) (signer : AgentRequestSigner)
    (nonce : JsString) (now : Instant) (lifetime : ℚ) (unsigned : UnsignedRequest)
    (signature : List UInt8) (signed : Request) (names : List JsString) : Prop where
  bounds : lifetime.den = 1 ∧ 1 ≤ lifetime ∧ lifetime ≤ 60
  listed : (signatureComponents unsigned.request).mapM quoted = .ok names
  serialized : unsigned.serialized = serializedTexts names (Int.fdiv now 1000)
    (Int.fdiv now 1000 + lifetime.num) (escapeQuoted signer.keyId) signer.algorithm.text
    (escapeQuoted nonce)
  input : signed.headers.get signatureInputHeader =
    some (agentSignatureLabel ++ js "=" ++ unsigned.serialized)
  carried : signed.headers.get signatureHeader = some (signatureText signature)
  components : signatureComponents signed = signatureComponents unsigned.request
  digest : signed.body.isSome = true →
    signed.headers.get contentDigestHeader = some (contentDigest createHash signed.content)
  base : signatureBase signed (signatureComponents unsigned.request) unsigned.serialized =
    .ok unsigned.base

theorem signedFrom (hunsigned : unsignedRequest urls createHash request signer nonce now
      (some lifetime) = .ok unsigned)
    (hsigned : signedRequest urls unsigned signature = .ok signed) :
    ∃ names, SignedFrom createHash signer nonce now lifetime unsigned signature signed names := by
  obtain ⟨given, hgiven, hlifetime, hdigested, hserialized, hbase⟩ :=
    unsignedRequest_eq_ok hunsigned
  cases hgiven
  obtain ⟨names, hnames, htexts⟩ := serializeParameters_eq_ok hserialized
  obtain ⟨hinput, hsignature⟩ := signedRequest_headers hsigned
  have hresent := (signedRequest_eq_ok hsigned).1
  rw [htexts, normalizeValue_serializedTexts, ← htexts] at hinput
  refine ⟨names, hlifetime, hnames, htexts, hinput, hsignature,
    hresent.signatureComponents_eq (by decide) (by decide), ?_, ?_⟩
  · intro hbody
    rw [hresent.body] at hbody
    rw [hresent.headers contentDigestHeader (by decide), digestedRequest_digest hdigested hbody,
      Request.content, Request.content, hresent.body]
  · rw [← hbase]
    exact signatureBase_congr fun component hmem =>
      hresent.componentValue_eq (not_mem_of_component hmem)

variable {names : List JsString}

theorem SignedFrom.parsed
    (h : SignedFrom createHash signer nonce now lifetime unsigned signature signed names)
    (hkeyId : Unescaped signer.keyId) (hnonce : Unescaped nonce) (hnow : 0 ≤ now) :
    parseParameters signed = .ok
      { components := signatureComponents unsigned.request
        created := Int.fdiv now 1000
        expires := Int.fdiv now 1000 + lifetime.num
        keyId := signer.keyId
        algorithm := signer.algorithm
        nonce := nonce
        serialized := unsigned.serialized } := by
  have hcreated : 0 ≤ Int.fdiv now 1000 := Int.fdiv_nonneg hnow (by decide)
  have hnum : 0 ≤ lifetime.num := Rat.num_nonneg.mpr (zero_le_one.trans h.bounds.2.1)
  obtain ⟨written, hwritten, hlist, hread⟩ := readComponents_componentsFor
    unsigned.request.body.isSome (unsigned.request.headers.has humanProofHeader)
    (unsigned.request.headers.has paymentSignatureHeader)
  cases hwritten.symm.trans h.listed
  have hparsed := @parseSerialized_serializedTexts _ _ _ _ signer.algorithm _ _ hread hlist
    hcreated (Int.add_nonneg hcreated hnum) hkeyId.1 hnonce.1
  have hserialized := h.serialized
  rw [escapeQuoted_eq_self.mpr hkeyId, escapeQuoted_eq_self.mpr hnonce] at hserialized
  have hprefix : (agentSignatureLabel ++ js "=").isPrefixOf
      (agentSignatureLabel ++ js "=" ++ unsigned.serialized) = true :=
    List.isPrefixOf_iff_prefix.mpr (List.prefix_append _ _)
  rw [parseParameters, h.input]
  dsimp only
  rw [if_pos hprefix]
  change parseSerialized unsigned.serialized = _
  rw [hserialized]
  exact hparsed

theorem SignedFrom.unescaped
    (h : SignedFrom createHash signer nonce now lifetime unsigned signature signed names)
    {parameters : AgentSignatureParameters} (hparsed : parseParameters signed = .ok parameters)
    (hkeyId : parameters.keyId = signer.keyId) (hnonce : parameters.nonce = nonce) :
    Unescaped signer.keyId ∧ Unescaped nonce ∧ 0 ≤ parameters.created := by
  obtain ⟨input, hinput, hparsed⟩ := parseParameters_eq_ok hparsed
  cases h.input.symm.trans hinput
  obtain ⟨-, list, params, hsplit, hread⟩ := parseSerialized_eq_ok hparsed
  obtain ⟨written, hwritten, hlist, -⟩ := readComponents_componentsFor
    unsigned.request.body.isSome (unsigned.request.headers.has humanProofHeader)
    (unsigned.request.headers.has paymentSignatureHeader)
  cases hwritten.symm.trans h.listed
  change splitList unsigned.serialized = _ at hsplit
  rw [h.serialized, splitList_serializedTexts hlist] at hsplit
  cases hsplit
  have hkeyQuote : quoteMark ∉ escapeQuoted signer.keyId := by
    rw [quoteMark_mem_escapeQuoted, ← hkeyId]
    exact quoteMark_of_read hread.keyId
  have hnonceQuote : quoteMark ∉ escapeQuoted nonce := by
    rw [quoteMark_mem_escapeQuoted, ← hnonce]
    exact quoteMark_of_read hread.nonce
  have hkeyRead := (findParameter_keyId hkeyQuote).symm.trans hread.keyId
  have hnonceRead := (findParameter_nonce hkeyQuote hnonceQuote).symm.trans hread.nonce
  rw [hkeyId, Option.some.injEq] at hkeyRead
  rw [hnonce, Option.some.injEq] at hnonceRead
  exact ⟨escapeQuoted_eq_self.mp hkeyRead, escapeQuoted_eq_self.mp hnonceRead,
    nonneg_of_read hread.created⟩

/-- A signed request is accepted exactly when nothing had to be escaped. -/
theorem signed_request_verifies_iff
    (hunsigned : unsignedRequest urls createHash request signer nonce now (some lifetime) =
      .ok unsigned)
    (hanswer : sign unsigned.base = .ok signature)
    (hsigned : signX424AgentRequest urls createHash sign request signer nonce now
      (some lifetime) = .ok signed)
    (hkeyId : key.keyId = signer.keyId) (halgorithm : key.algorithm = signer.algorithm)
    (hverifies : key.verify unsigned.base signature = .ok true) :
    (∀ options : AgentVerification, options.Awaits signer nonce now lifetime key signed →
      verifyX424AgentRequest createHash signed options = .ok ⟨.agentKey, signer.keyId⟩) ↔
      Unescaped signer.keyId ∧ Unescaped nonce ∧ 0 ≤ now ∧ signature ≠ [] := by
  have hrequest : signedRequest urls unsigned signature = .ok signed := by
    obtain ⟨found, hfound, h⟩ := bind_eq_ok.mp hsigned
    cases hunsigned.symm.trans hfound
    obtain ⟨answer, hgiven, h⟩ := bind_eq_ok.mp h
    cases hanswer.symm.trans hgiven
    exact h
  obtain ⟨names, hfrom⟩ := signedFrom hunsigned hrequest
  constructor
  · intro hall
    have haccepted := hall (.exact key nonce now)
      (AgentVerification.exact_awaits hfrom.bounds.2.1)
    obtain ⟨parameters, found, base, carried, haccepts, hbinding⟩ :=
      verifyX424AgentRequest_eq_ok.mp haccepted
    obtain ⟨hunescaped, hnonce, hcreated⟩ := hfrom.unescaped haccepts.parsed
      (congrArg HumanBinding.value hbinding).symm (haccepts.nonce nonce rfl).symm
    have hwindow : (parameters.created : ℚ) ≤ (Int.fdiv now 1000 : ℚ) + 0 := haccepts.window.1
    have hseconds : parameters.created ≤ Int.fdiv now 1000 := by
      rw [add_zero] at hwindow
      exact_mod_cast hwindow
    refine ⟨hunescaped, hnonce, ?_, ?_⟩
    · by_contra hnegative
      have hbefore : Int.fdiv now 1000 < 0 :=
        Int.fdiv_neg_of_neg_of_pos (not_le.mp hnegative) (by decide)
      omega
    · intro hempty
      have hcarried := haccepts.carried
      rw [parseSignature_signatureText hfrom.carried, if_pos hempty] at hcarried
      cases hcarried
  · rintro ⟨hunescaped, hnonce, hnow, hsignature⟩ options hoptions
    have hparsed := hfrom.parsed hunescaped hnonce hnow
    refine verifyX424AgentRequest_eq_ok.mpr ⟨_, key, unsigned.base, signature,
      { parsed := hparsed
        window := hoptions.inWindow hfrom.bounds rfl rfl
        nonce := fun expected hexpected => Option.some.inj (hexpected.symm.trans hoptions.nonce)
        components := hfrom.components.symm
        digest := hfrom.digest
        resolved := hoptions.resolved
        keyId := hkeyId
        algorithm := halgorithm
        signed := hfrom.base
        carried := (parseSignature_signatureText hfrom.carried).trans (if_neg hsignature)
        verified := hverifies }, rfl⟩

end RoundTrip

namespace QuotedKeyId

def urls : UrlParser where
  parse _ := none
  referrer text := some text
  href_printable h := by cases h
  pathname_https h := by cases h

theorem url_printable : ∀ u ∈ js "https://api.example/act", isPrintable u = true :=
  List.all_eq_true.mp (by decide)

def request : Request where
  method := js "GET"
  url := js "https://api.example/act"
  headers := .empty
  body := none
  redirect := .manual
  credentials := .sameOrigin
  cache := .default
  integrity := []
  keepalive := false
  mode := .cors
  referrer := js "about:client"
  referrerPolicy := []
  bodyUsed := false
  method_token := isToken_get
  url_printable := url_printable

def signer (keyId : JsString) : AgentRequestSigner := ⟨keyId, .ed25519⟩

def key (keyId : JsString) : ResolvedAgentKey where
  keyId := keyId
  algorithm := .ed25519
  verify _ signature := .ok (decide (signature = [1]))

def sign (keyId : JsString) : Except JsError Request :=
  signX424AgentRequest urls id (fun _ => .ok [1]) request (signer keyId) (js "n") 100000 (some 60)

def signed (keyId : JsString) : Request := (sign keyId).toOption.getD request

theorem sign_plain : sign (js "k") = .ok (signed (js "k")) := by decide +kernel

theorem sign_quoted : sign (js "a\"b") = .ok (signed (js "a\"b")) := by decide +kernel

end QuotedKeyId

/-- A key id without a quote or a backslash. -/
theorem plain_key_id_verifies :
    (∀ options : AgentVerification, options.Awaits (QuotedKeyId.signer (js "k")) (js "n") 100000 60
        (QuotedKeyId.key (js "k")) (QuotedKeyId.signed (js "k")) →
      verifyX424AgentRequest id (QuotedKeyId.signed (js "k")) options =
        .ok ⟨.agentKey, js "k"⟩) ↔
      Unescaped (js "k") ∧ Unescaped (js "n") ∧ 0 ≤ (100000 : Instant) ∧
        ([1] : List UInt8) ≠ [] := by
  obtain ⟨unsigned, hunsigned, -⟩ := bind_eq_ok.mp QuotedKeyId.sign_plain
  exact signed_request_verifies_iff hunsigned rfl QuotedKeyId.sign_plain rfl rfl rfl

/-- A key id with a quote is not found in the request that was signed with it. -/
theorem quoted_key_id_fails :
    QuotedKeyId.sign (js "a\"b") = .ok (QuotedKeyId.signed (js "a\"b")) ∧
      (AgentVerification.exact (QuotedKeyId.key (js "a\"b")) (js "n") 100000).Awaits
        (QuotedKeyId.signer (js "a\"b")) (js "n") 100000 60 (QuotedKeyId.key (js "a\"b"))
        (QuotedKeyId.signed (js "a\"b")) ∧
      verifyX424AgentRequest id (QuotedKeyId.signed (js "a\"b"))
          (.exact (QuotedKeyId.key (js "a\"b")) (js "n") 100000) =
        .error ⟨js "Missing agent signature parameter: keyid"⟩ :=
  ⟨QuotedKeyId.sign_quoted, AgentVerification.exact_awaits (by norm_num), by decide +kernel⟩

end X424
