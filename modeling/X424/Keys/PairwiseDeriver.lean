import X424.Foundation.Paths
import X424.Js.Url
import X424.Satisfaction

/-!
# The local pairwise deriver

`createLocalPairwiseDeriver`: pairwise identifiers and replay digests are made
under one secret from texts that are joined with NUL.  Which inputs share a
preimage.
-/

namespace X424

open Foundation.Paths

/-! ## The deriver -/

structure PairwiseInput where
  audience : JsString
  providerId : JsString
  methodId : JsString
  providerSubject : JsString
  deriving DecidableEq

structure ReplayInput where
  providerId : JsString
  methodId : JsString
  scope : UniquenessScope
  providerSubject : JsString
  deriving DecidableEq

/-- `values.join("\u0000")`. -/
def joinNul (values : List JsString) : JsString := [0x00].intercalate values

def PairwiseInput.preimage (input : PairwiseInput) : JsString :=
  joinNul [input.audience, input.providerId, input.methodId, input.providerSubject]

def ReplayInput.preimage (input : ReplayInput) : JsString :=
  joinNul [js "provider-replay", input.providerId, input.methodId, input.scope.kind.text,
    input.scope.id, input.providerSubject]

def replayPrefix : JsString := js "hmac-sha256:"

/-- `createHmac` is given the secret and the bytes that the HMAC is updated with. -/
def createLocalPairwiseDeriver (createHmac : List UInt8 → List UInt8 → List UInt8)
    (secret : List UInt8) : Except JsError ExternalPairwiseDeriver :=
  if secret.length < 32 then
    .error ⟨js "Pairwise secret must contain at least 32 random bytes"⟩
  else .ok {
    derivePairwiseHumanId := fun audience providerId methodId providerSubject =>
      .ok (pairwisePrefix ++ encodeStrictBase64Url (createHmac secret (utf8
        (PairwiseInput.mk audience providerId methodId providerSubject).preimage)))
    deriveProviderReplayDigest := fun providerId methodId scope providerSubject =>
      .ok (replayPrefix ++ encodeStrictBase64Url (createHmac secret (utf8
        (ReplayInput.mk providerId methodId scope providerSubject).preimage))) }

/-- `deriver.derivePairwiseHumanId(input)`. -/
def ExternalPairwiseDeriver.pairwiseHumanId (deriver : ExternalPairwiseDeriver)
    (input : PairwiseInput) : Except JsError JsString :=
  deriver.derivePairwiseHumanId input.audience input.providerId input.methodId
    input.providerSubject

/-- `deriver.deriveProviderReplayDigest(input)`. -/
def ExternalPairwiseDeriver.replayDigest (deriver : ExternalPairwiseDeriver)
    (input : ReplayInput) : Except JsError JsString :=
  deriver.deriveProviderReplayDigest input.providerId input.methodId input.scope
    input.providerSubject

/-! ## What `satisfy` can pass -/

structure PairwiseInput.Passable (urls : JsUrls) (input : PairwiseInput) : Prop where
  audience : urls.check input.audience = some input.audience
  providerId : isHumanMethodIdentifier input.providerId = true
  methodId : isHumanMethodIdentifier input.methodId = true
  providerSubject : input.providerSubject ≠ []

structure ReplayInput.Passable (input : ReplayInput) : Prop where
  providerId : isHumanMethodIdentifier input.providerId = true
  methodId : isHumanMethodIdentifier input.methodId = true
  scopeId : input.scope.id ≠ []
  providerSubject : input.providerSubject ≠ []

/-! ## Inputs that share a preimage -/

def PairwiseInput.toWellFormed (input : PairwiseInput) : PairwiseInput :=
  ⟨X424.toWellFormed input.audience, X424.toWellFormed input.providerId,
    X424.toWellFormed input.methodId, X424.toWellFormed input.providerSubject⟩

def ReplayInput.toWellFormed (input : ReplayInput) : ReplayInput :=
  ⟨X424.toWellFormed input.providerId, X424.toWellFormed input.methodId,
    ⟨input.scope.kind, X424.toWellFormed input.scope.id⟩,
    X424.toWellFormed input.providerSubject⟩

/-- The audience is the other's, a NUL and a part of what is joined behind the other's. -/
def PairwiseInput.Continues (input other : PairwiseInput) : Prop :=
  ∃ more, input.audience = other.audience ++ 0x00 :: more ∧
    joinNul [other.providerId, other.methodId, other.providerSubject] =
      more ++ 0x00 :: joinNul [input.providerId, input.methodId, input.providerSubject]

/-- The scope is the other's, a NUL and a part of the other's subject. -/
def ReplayInput.Continues (input other : ReplayInput) : Prop :=
  input.providerId = other.providerId ∧ input.methodId = other.methodId ∧
    input.scope.kind = other.scope.kind ∧
      ∃ more, input.scope.id = other.scope.id ++ 0x00 :: more ∧
        other.providerSubject = more ++ 0x00 :: input.providerSubject

/-- Two inputs that only an unpaired surrogate or the place of a NUL tells apart. -/
def PairwiseInput.Confused (input other : PairwiseInput) : Prop :=
  (input ≠ other ∧ input.toWellFormed = other.toWellFormed) ∨
    input.toWellFormed.Continues other.toWellFormed ∨
      other.toWellFormed.Continues input.toWellFormed

def ReplayInput.Confused (input other : ReplayInput) : Prop :=
  (input ≠ other ∧ input.toWellFormed = other.toWellFormed) ∨
    input.toWellFormed.Continues other.toWellFormed ∨
      other.toWellFormed.Continues input.toWellFormed

/-! ## Joined texts -/

theorem joinNul_cons (value next : JsString) (values : List JsString) :
    joinNul (value :: next :: values) = value ++ 0x00 :: joinNul (next :: values) := by
  rw [joinNul, List.intercalate_cons_cons, List.append_assoc, List.singleton_append, joinNul]

theorem joinNul_singleton (value : JsString) : joinNul [value] = value :=
  List.intercalate_singleton

theorem toWellFormed_joinNul (value : JsString) (values : List JsString) :
    toWellFormed (joinNul (value :: values)) =
      joinNul ((value :: values).map toWellFormed) := by
  induction values generalizing value with
  | nil => rw [List.map_singleton, joinNul_singleton, joinNul_singleton]
  | cons next values ih =>
      rw [joinNul_cons, toWellFormed_append (by decide) (by decide), ih, List.map_cons,
        List.map_cons, List.map_cons, joinNul_cons]

theorem identifier_units {identifier : JsString}
    (h : isHumanMethodIdentifier identifier = true) :
    ∀ u ∈ identifier, isIdentifierUnit u = true := by
  cases identifier with
  | nil => cases h
  | cons u rest =>
      simp only [isHumanMethodIdentifier, Bool.and_eq_true, List.all_eq_true] at h
      refine List.forall_mem_cons.mpr ⟨?_, h.2⟩
      rw [isIdentifierUnit, h.1.1]
      rfl

theorem nul_not_mem_identifier {identifier : JsString}
    (h : isHumanMethodIdentifier identifier = true) : 0x00 ∉ identifier := fun hmem =>
  absurd (identifier_units h 0x00 hmem) (by decide)

theorem isIdentifierUnit_ascii {u : UInt16} (h : isIdentifierUnit u = true) : u < 0x80 := by
  simp only [isIdentifierUnit, isIdentifierStart, isAsciiLower, Bool.or_eq_true,
    Bool.and_eq_true, decide_eq_true_eq, beq_iff_eq, UInt16.le_iff_toNat_le,
    UInt16.reduceToNat, ← UInt16.toNat_inj] at h
  simp only [UInt16.lt_iff_toNat_lt, UInt16.reduceToNat]
  omega

theorem toWellFormed_identifier {identifier : JsString}
    (h : isHumanMethodIdentifier identifier = true) : toWellFormed identifier = identifier :=
  (isText_ascii fun u hu => isIdentifierUnit_ascii (identifier_units h u hu)).toWellFormed_eq

theorem pairwise_preimage_eq_iff {urls : JsUrls} {input other : PairwiseInput}
    (h : input.Passable urls) (h' : other.Passable urls) :
    utf8 input.preimage = utf8 other.preimage ↔
      input.toWellFormed = other.toWellFormed ∨
        input.toWellFormed.Continues other.toWellFormed ∨
          other.toWellFormed.Continues input.toWellFormed := by
  have hprovider := toWellFormed_identifier h.providerId
  have hprovider' := toWellFormed_identifier h'.providerId
  have hmethod := toWellFormed_identifier h.methodId
  have hmethod' := toWellFormed_identifier h'.methodId
  have hback : joinNul [input.providerId, input.methodId, toWellFormed input.providerSubject] =
      joinNul [other.providerId, other.methodId, toWellFormed other.providerSubject] ↔
        input.providerId = other.providerId ∧ input.methodId = other.methodId ∧
          toWellFormed input.providerSubject = toWellFormed other.providerSubject := by
    rw [joinNul_cons, joinNul_cons, joinNul_cons, joinNul_cons, joinNul_singleton,
      joinNul_singleton,
      append_cons_inj (nul_not_mem_identifier h.providerId) (nul_not_mem_identifier h'.providerId),
      append_cons_inj (nul_not_mem_identifier h.methodId) (nul_not_mem_identifier h'.methodId)]
  simp only [utf8_eq_iff, PairwiseInput.preimage, toWellFormed_joinNul, List.map_cons,
    List.map_nil, hprovider, hprovider', hmethod, hmethod']
  rw [joinNul_cons (X424.toWellFormed input.audience),
    joinNul_cons (X424.toWellFormed other.audience), append_cons_eq_append_cons, hback]
  simp only [PairwiseInput.toWellFormed, PairwiseInput.Continues, hprovider, hprovider', hmethod,
    hmethod', PairwiseInput.mk.injEq]
  exact or_congr .rfl or_comm

theorem nul_not_mem_scopeKind (kind : UniquenessScopeKind) : 0x00 ∉ kind.text := by
  cases kind <;> decide

theorem toWellFormed_scopeKind (kind : UniquenessScopeKind) :
    toWellFormed kind.text = kind.text := by
  cases kind <;> decide

theorem scopeKind_text_inj {kind other : UniquenessScopeKind} :
    kind.text = other.text ↔ kind = other := by
  cases kind <;> cases other <;> decide

theorem replay_preimage_eq_iff {input other : ReplayInput} (h : input.Passable)
    (h' : other.Passable) :
    utf8 input.preimage = utf8 other.preimage ↔
      input.toWellFormed = other.toWellFormed ∨
        input.toWellFormed.Continues other.toWellFormed ∨
          other.toWellFormed.Continues input.toWellFormed := by
  have hprovider := toWellFormed_identifier h.providerId
  have hprovider' := toWellFormed_identifier h'.providerId
  have hmethod := toWellFormed_identifier h.methodId
  have hmethod' := toWellFormed_identifier h'.methodId
  simp only [utf8_eq_iff, ReplayInput.preimage, toWellFormed_joinNul, List.map_cons,
    List.map_nil, hprovider, hprovider', hmethod, hmethod', toWellFormed_scopeKind]
  simp only [joinNul_cons, joinNul_singleton]
  rw [append_cons_inj (by decide) (by decide),
    append_cons_inj (nul_not_mem_identifier h.providerId) (nul_not_mem_identifier h'.providerId),
    append_cons_inj (nul_not_mem_identifier h.methodId) (nul_not_mem_identifier h'.methodId),
    append_cons_inj (nul_not_mem_scopeKind _) (nul_not_mem_scopeKind _),
    append_cons_eq_append_cons, scopeKind_text_inj]
  simp only [ReplayInput.toWellFormed, ReplayInput.Continues, hprovider, hprovider', hmethod,
    hmethod', ReplayInput.mk.injEq, UniquenessScope.mk.injEq]
  constructor
  · rintro ⟨-, hids, hmethods, hkinds, ⟨hscopes, hsubjects⟩ | hmore | hmore⟩
    · exact .inl ⟨hids, hmethods, ⟨hkinds, hscopes⟩, hsubjects⟩
    · exact .inr (.inr ⟨hids.symm, hmethods.symm, hkinds.symm, hmore⟩)
    · exact .inr (.inl ⟨hids, hmethods, hkinds, hmore⟩)
  · rintro (⟨hids, hmethods, ⟨hkinds, hscopes⟩, hsubjects⟩ | ⟨hids, hmethods, hkinds, hmore⟩ |
      ⟨hids, hmethods, hkinds, hmore⟩)
    · exact ⟨trivial, hids, hmethods, hkinds, .inl ⟨hscopes, hsubjects⟩⟩
    · exact ⟨trivial, hids, hmethods, hkinds, .inr (.inr hmore)⟩
    · exact ⟨trivial, hids.symm, hmethods.symm, hkinds.symm, .inr (.inl hmore)⟩

theorem toWellFormed_scheme {leading scheme : JsString} (hleading : ∀ u ∈ leading, u ≤ 0x20)
    (hscheme : ∀ u ∈ scheme, isSchemeUnit u = true ∨ u = 0x09 ∨ u = 0x0A ∨ u = 0x0D) :
    toWellFormed (leading ++ scheme) = leading ++ scheme := by
  refine (isText_ascii fun u hu => ?_).toWellFormed_eq
  rcases List.mem_append.mp hu with hu | hu
  · have hunit := hleading u hu
    simp only [UInt16.le_iff_toNat_le, UInt16.reduceToNat] at hunit
    simp only [UInt16.lt_iff_toNat_lt, UInt16.reduceToNat]
    omega
  · have hunit := hscheme u hu
    simp only [isSchemeUnit, isAsciiLower, Bool.or_eq_true, Bool.and_eq_true, decide_eq_true_eq,
      beq_iff_eq, UInt16.le_iff_toNat_le, UInt16.reduceToNat, ← UInt16.toNat_inj] at hunit
    simp only [UInt16.lt_iff_toNat_lt, UInt16.reduceToNat]
    omega

theorem PairwiseInput.not_continues_self (input : PairwiseInput) : ¬ input.Continues input := by
  rintro ⟨more, haudience, -⟩
  simpa using congrArg List.length haudience

theorem ReplayInput.not_continues_self (input : ReplayInput) : ¬ input.Continues input := by
  rintro ⟨-, -, -, more, hscope, -⟩
  simpa using congrArg List.length hscope

theorem pairwise_preimage_inj_iff {urls : JsUrls} {input other : PairwiseInput}
    (h : input.Passable urls) (h' : other.Passable urls) :
    (utf8 input.preimage = utf8 other.preimage → input = other) ↔ ¬ input.Confused other := by
  rw [pairwise_preimage_eq_iff h h', PairwiseInput.Confused]
  constructor
  · rintro hinj (⟨hne, hsame⟩ | hmore | hmore)
    · exact hne (hinj (.inl hsame))
    · exact PairwiseInput.not_continues_self _ (hinj (.inr (.inl hmore)) ▸ hmore)
    · exact PairwiseInput.not_continues_self _ (hinj (.inr (.inr hmore)) ▸ hmore)
  · rintro hclear (hsame | hmore)
    · by_contra hne
      exact hclear (.inl ⟨hne, hsame⟩)
    · exact absurd (.inr hmore) hclear

theorem replay_preimage_inj_iff {input other : ReplayInput} (h : input.Passable)
    (h' : other.Passable) :
    (utf8 input.preimage = utf8 other.preimage → input = other) ↔ ¬ input.Confused other := by
  rw [replay_preimage_eq_iff h h', ReplayInput.Confused]
  constructor
  · rintro hinj (⟨hne, hsame⟩ | hmore | hmore)
    · exact hne (hinj (.inl hsame))
    · exact ReplayInput.not_continues_self _ (hinj (.inr (.inl hmore)) ▸ hmore)
    · exact ReplayInput.not_continues_self _ (hinj (.inr (.inr hmore)) ▸ hmore)
  · rintro hclear (hsame | hmore)
    · by_contra hne
      exact hclear (.inl ⟨hne, hsame⟩)
    · exact absurd (.inr hmore) hclear

theorem preimages_ne {urls : JsUrls}
    (hurls : ∀ text url, urls.check text = some url → HasScheme url)
    {input : PairwiseInput} (h : input.Passable urls) (replay : ReplayInput) :
    utf8 input.preimage ≠ utf8 replay.preimage := by
  obtain ⟨leading, scheme, rest, haudience, hleading, hscheme⟩ := hurls _ _ h.audience
  rw [Ne, utf8_eq_iff, PairwiseInput.preimage, ReplayInput.preimage,
    joinNul_cons input.audience, joinNul_cons (js "provider-replay"),
    toWellFormed_append (by decide) (by decide), toWellFormed_append (by decide) (by decide),
    haudience,
    toWellFormed_append (by decide) (by decide), toWellFormed_scheme hleading hscheme,
    (isText_js "provider-replay").toWellFormed_eq]
  cases leading with
  | cons u leading =>
      intro heq
      have hunit : u = 0x70 := (List.cons.inj heq).1
      have hle := hleading u List.mem_cons_self
      rw [hunit] at hle
      exact absurd hle (by decide)
  | nil =>
      rw [List.nil_append, List.append_assoc, List.cons_append]
      refine append_cons_ne_append_cons (by decide) (fun hnul => ?_) (by decide)
      rcases hscheme _ hnul with hunit | hunit | hunit | hunit
      all_goals exact absurd hunit (by decide)

/-! ## What the deriver tells apart -/

section Separation

variable {createHmac : List UInt8 → List UInt8 → List UInt8} {secret : List UInt8}
  {deriver : ExternalPairwiseDeriver}

theorem createLocalPairwiseDeriver_eq_ok
    (h : createLocalPairwiseDeriver createHmac secret = .ok deriver) :
    (∀ input, deriver.pairwiseHumanId input =
        .ok (pairwisePrefix ++ encodeStrictBase64Url (createHmac secret (utf8 input.preimage)))) ∧
      ∀ input, deriver.replayDigest input =
        .ok (replayPrefix ++ encodeStrictBase64Url (createHmac secret (utf8 input.preimage))) := by
  unfold createLocalPairwiseDeriver at h
  split at h
  · cases h
  · cases h
    exact ⟨fun _ => rfl, fun _ => rfl⟩

variable (deriver) in
/-- Inputs that differ have different preimages, and under an injective HMAC different
identifiers and digests. -/
structure Separates (input other : PairwiseInput) (replay replay' : ReplayInput) : Prop where
  pairwisePreimages : utf8 input.preimage = utf8 other.preimage → input = other
  replayPreimages : utf8 replay.preimage = utf8 replay'.preimage → replay = replay'
  domains : utf8 input.preimage ≠ utf8 replay.preimage
  pairwiseHumanIds : deriver.pairwiseHumanId input = deriver.pairwiseHumanId other → input = other
  replayDigests : deriver.replayDigest replay = deriver.replayDigest replay' → replay = replay'
  unlinked : ∀ pairwiseHumanId replayDigest,
    deriver.pairwiseHumanId input = .ok pairwiseHumanId →
    deriver.replayDigest replay = .ok replayDigest →
    pairwiseHumanId ≠ replayDigest ∧ pairwiseHumanId.drop 11 ≠ replayDigest.drop 12

theorem separates_iff {urls : JsUrls}
    (hurls : ∀ text url, urls.check text = some url → HasScheme url)
    (hderiver : createLocalPairwiseDeriver createHmac secret = .ok deriver)
    {input other : PairwiseInput} (h : input.Passable urls) (h' : other.Passable urls)
    {replay replay' : ReplayInput} (hreplay : replay.Passable) (hreplay' : replay'.Passable)
    (hhmac : Set.InjOn (createHmac secret)
      {utf8 input.preimage, utf8 other.preimage, utf8 replay.preimage, utf8 replay'.preimage}) :
    Separates deriver input other replay replay' ↔
      ¬ input.Confused other ∧ ¬ replay.Confused replay' := by
  obtain ⟨hidentifier, hdigest⟩ := createLocalPairwiseDeriver_eq_ok hderiver
  rw [← pairwise_preimage_inj_iff h h', ← replay_preimage_inj_iff hreplay hreplay']
  refine ⟨fun hseparates => ⟨hseparates.pairwisePreimages, hseparates.replayPreimages⟩, ?_⟩
  rintro ⟨hpairwise, hreplays⟩
  have hdomains := preimages_ne hurls h replay
  refine ⟨hpairwise, hreplays, hdomains, fun hsame => ?_, fun hsame => ?_, ?_⟩
  · rw [hidentifier, hidentifier, Except.ok.injEq, List.append_cancel_left_eq] at hsame
    exact hpairwise (hhmac (by simp) (by simp) (encodeStrictBase64Url_injective hsame))
  · rw [hdigest, hdigest, Except.ok.injEq, List.append_cancel_left_eq] at hsame
    exact hreplays (hhmac (by simp) (by simp) (encodeStrictBase64Url_injective hsame))
  · intro pairwiseHumanId replayDigest hid hreplayDigest
    rw [hidentifier, Except.ok.injEq] at hid
    rw [hdigest, Except.ok.injEq] at hreplayDigest
    subst hid hreplayDigest
    have hdifferent : encodeStrictBase64Url (createHmac secret (utf8 input.preimage)) ≠
        encodeStrictBase64Url (createHmac secret (utf8 replay.preimage)) := fun hsame =>
      hdomains (hhmac (by simp) (by simp) (encodeStrictBase64Url_injective hsame))
    refine ⟨fun heq => ?_, hdifferent⟩
    exact absurd (List.cons.inj heq).1 (by decide)

theorem PairwiseInput.not_confused {input other : PairwiseInput}
    (h : input.toWellFormed = input) (h' : other.toWellFormed = other)
    (hnul : 0x00 ∉ input.audience) (hnul' : 0x00 ∉ other.audience) : ¬ input.Confused other := by
  rw [PairwiseInput.Confused, h, h']
  rintro (⟨hne, hsame⟩ | ⟨more, haudience, -⟩ | ⟨more, haudience, -⟩)
  · exact hne hsame
  · exact hnul (by simp [haudience])
  · exact hnul' (by simp [haudience])

theorem ReplayInput.not_confused {input other : ReplayInput}
    (h : input.toWellFormed = input) (h' : other.toWellFormed = other)
    (hnul : 0x00 ∉ input.scope.id) (hnul' : 0x00 ∉ other.scope.id) : ¬ input.Confused other := by
  rw [ReplayInput.Confused, h, h']
  rintro (⟨hne, hsame⟩ | ⟨-, -, -, more, hscope, -⟩ | ⟨-, -, -, more, hscope, -⟩)
  · exact hne hsame
  · exact hnul (by simp [hscope])
  · exact hnul' (by simp [hscope])

end Separation

/-! ## One secret -/

namespace OneSecret

def audience : JsString := js "https://a.example/"

def longAudience : JsString := joinNul [audience, js "world", js "orb"]

def urls : JsUrls where
  check text := if text = audience ∨ text = longAudience then some text else none
  check_check h := by
    split_ifs at h with hknown
    cases h
    exact if_pos hknown

theorem hasScheme (text url : JsString) (h : urls.check text = some url) : HasScheme url := by
  change (if text = audience ∨ text = longAudience then some text else none) = some url at h
  split_ifs at h with hknown
  cases h
  have hscheme : (js "https").all isSchemeUnit = true := by decide
  rcases hknown with rfl | rfl
  · exact ⟨[], js "https", js "//a.example/", by decide, nofun,
      fun u hu => .inl (List.all_eq_true.mp hscheme u hu)⟩
  · exact ⟨[], js "https", joinNul [js "//a.example/", js "world", js "orb"], by decide,
      nofun, fun u hu => .inl (List.all_eq_true.mp hscheme u hu)⟩

def secret : List UInt8 := (List.range 32).map UInt8.ofNat

def input (providerSubject : JsString) : PairwiseInput :=
  ⟨audience, js "world", js "orb", providerSubject⟩

def replay (providerSubject : JsString) : ReplayInput :=
  ⟨js "world", js "orb", ⟨.action, js "vote"⟩, providerSubject⟩

def first : PairwiseInput := input (joinNul [js "world", js "orb", js "s"])

def second : PairwiseInput := ⟨longAudience, js "world", js "orb", js "s"⟩

def digests : List (List UInt8 × List UInt8) :=
  [(utf8 (input (js "nullifier")).preimage,
      [25, 112, 232, 135, 60, 42, 82, 19, 228, 101, 180, 137, 218, 87, 43, 149, 36, 11, 147, 46,
        24, 77, 150, 117, 173, 139, 165, 160, 96, 203, 146, 163]),
    (utf8 (input (js "other")).preimage,
      [13, 246, 152, 163, 177, 160, 143, 160, 19, 126, 230, 18, 53, 159, 24, 178, 168, 123, 166,
        255, 227, 151, 232, 185, 87, 161, 17, 231, 72, 173, 11, 203]),
    (utf8 (replay (js "nullifier")).preimage,
      [173, 146, 176, 255, 102, 251, 154, 123, 198, 168, 196, 75, 13, 237, 234, 254, 210, 131, 113,
        37, 188, 144, 218, 60, 13, 147, 222, 187, 49, 45, 247, 6]),
    (utf8 (replay (js "other")).preimage,
      [191, 11, 55, 92, 20, 174, 188, 224, 68, 133, 87, 184, 31, 66, 149, 156, 245, 150, 126, 239,
        60, 151, 122, 102, 253, 56, 202, 28, 197, 148, 28, 76]),
    (utf8 first.preimage,
      [182, 75, 240, 54, 43, 10, 68, 155, 235, 237, 172, 75, 72, 203, 102, 23, 179, 202, 53, 114,
        39, 166, 86, 38, 78, 220, 201, 201, 11, 229, 41, 121])]

def createHmac (key message : List UInt8) : List UInt8 :=
  if key = secret then (digests.lookup message).getD [] else []

def deriver : ExternalPairwiseDeriver where
  derivePairwiseHumanId audience providerId methodId providerSubject :=
    .ok (pairwisePrefix ++ encodeStrictBase64Url (createHmac secret (utf8
      (PairwiseInput.mk audience providerId methodId providerSubject).preimage)))
  deriveProviderReplayDigest providerId methodId scope providerSubject :=
    .ok (replayPrefix ++ encodeStrictBase64Url (createHmac secret (utf8
      (ReplayInput.mk providerId methodId scope providerSubject).preimage)))

theorem created : createLocalPairwiseDeriver createHmac secret = .ok deriver := rfl

theorem passable : (input (js "nullifier")).Passable urls ∧ (input (js "other")).Passable urls :=
  ⟨⟨by decide, by decide, by decide, by decide⟩, ⟨by decide, by decide, by decide, by decide⟩⟩

theorem replay_passable :
    (replay (js "nullifier")).Passable ∧ (replay (js "other")).Passable :=
  ⟨⟨by decide, by decide, by decide, by decide⟩, ⟨by decide, by decide, by decide, by decide⟩⟩

theorem createHmac_injOn : Set.InjOn (createHmac secret)
    {utf8 (input (js "nullifier")).preimage, utf8 (input (js "other")).preimage,
      utf8 (replay (js "nullifier")).preimage, utf8 (replay (js "other")).preimage} := by
  intro message hmessage message' hmessage'
  simp only [Set.mem_insert_iff, Set.mem_singleton_iff] at hmessage hmessage'
  rcases hmessage with rfl | rfl | rfl | rfl <;> rcases hmessage' with rfl | rfl | rfl | rfl <;>
    decide +kernel

theorem clear : ¬ (input (js "nullifier")).Confused (input (js "other")) ∧
    ¬ (replay (js "nullifier")).Confused (replay (js "other")) :=
  ⟨PairwiseInput.not_confused (by decide) (by decide) (by decide) (by decide),
    ReplayInput.not_confused (by decide) (by decide) (by decide) (by decide)⟩

end OneSecret

theorem two_subjects_separate :
    Separates OneSecret.deriver (OneSecret.input (js "nullifier")) (OneSecret.input (js "other"))
      (OneSecret.replay (js "nullifier")) (OneSecret.replay (js "other")) :=
  (separates_iff OneSecret.hasScheme OneSecret.created OneSecret.passable.1 OneSecret.passable.2
    OneSecret.replay_passable.1 OneSecret.replay_passable.2 OneSecret.createHmac_injOn).mpr
    OneSecret.clear

/-- Two audiences share a pairwise identifier. -/
theorem audiences_share_identifier :
    OneSecret.first.Passable OneSecret.urls ∧ OneSecret.second.Passable OneSecret.urls ∧
      OneSecret.first.audience ≠ OneSecret.second.audience ∧
      createLocalPairwiseDeriver OneSecret.createHmac OneSecret.secret = .ok OneSecret.deriver ∧
      ¬ Separates OneSecret.deriver OneSecret.first OneSecret.second
        (OneSecret.replay (js "nullifier")) (OneSecret.replay (js "other")) :=
  ⟨⟨by decide, by decide, by decide, by decide⟩, ⟨by decide, by decide, by decide, by decide⟩,
    by decide, OneSecret.created, fun h =>
      absurd (h.pairwiseHumanIds (by decide +kernel)) (by decide)⟩

end X424
