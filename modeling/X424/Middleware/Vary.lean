import X424.Client.Request
import X424.Foundation.Tokens

/-!
# Vary

`mergeVary` of `transport.ts` adds values to the `Vary` of a response.  A list
covers a token if it names it, in any case, or the wildcard; what was covered
before stays covered and what is added becomes covered.
-/

namespace X424

open Foundation

/-- A header value of Node; a number is its text. -/
inductive HeaderValue where
  | single (text : JsString)
  | list (texts : List JsString)
  deriving DecidableEq

/-- `String(value)`, which is `value.join(",")` for a list. -/
def HeaderValue.text : HeaderValue → JsString
  | .single text => text
  | .list texts => [0x2C].intercalate texts

def wildcard : JsString := js "*"

def mergeVary (existing : Option HeaderValue) (values : List JsString) : JsString :=
  let current := match existing with
    | none => []
    | some value => value.text
  let listed := ((current.splitOn 0x2C ++ values).map trim).filter (!·.isEmpty)
  if wildcard ∈ listed then wildcard
  else (js ", ").intercalate (distinctBy toLowerCase [] listed)

example : mergeVary (some (.list [js "Origin", js "accept"])) [js "Accept", js "human-proof"] =
    js "Origin, accept, human-proof" := by
  decide

/-! ## Tokens -/

def varyTokens (vary : JsString) : List JsString := tokens 0x2C isTrimmed vary

def Mentions (vary token : JsString) : Prop :=
  wildcard ∈ varyTokens vary ∨ ∃ named ∈ varyTokens vary, toLowerCase named = toLowerCase token

def lowerUnit (u : UInt16) : UInt16 :=
  if (0x41 ≤ u && u ≤ 0x5A) || (0xC0 ≤ u && u ≤ 0xDE && u != 0xD7) then u + 0x20
  else if u == 0x178 then 0xFF
  else if u == 0x1E9E then 0xDF
  else if u == 0x212A then 0x6B
  else if u == 0x212B then 0xE5
  else u

theorem lowerUnit_cases (u : UInt16) :
    lowerUnit u = u ∨
      (isTrimmed u = false ∧ 0x41 ≤ u.toNat) ∧ 0x61 ≤ (lowerUnit u).toNat ∧
        (lowerUnit u).toNat ≤ 0xFF ∧ (lowerUnit u).toNat ≠ 0xA0 := by
  unfold lowerUnit isTrimmed
  split_ifs with hcapital h178 h1E9E h212A h212B
  · right
    simp only [Bool.or_eq_true, Bool.and_eq_true, decide_eq_true_eq, UInt16.le_iff_toNat_le,
      bne_iff_ne, ne_eq, Bool.or_eq_false_iff, Bool.and_eq_false_iff, decide_eq_false_iff_not,
      beq_eq_false_iff_ne, ← UInt16.toNat_inj, UInt16.toNat_add, UInt16.reduceToNat]
      at hcapital ⊢
    omega
  · right
    rw [beq_iff_eq.mp h178]
    decide
  · right
    rw [beq_iff_eq.mp h1E9E]
    decide
  · right
    rw [beq_iff_eq.mp h212A]
    decide
  · right
    rw [beq_iff_eq.mp h212B]
    decide
  · exact Or.inl rfl

theorem isTrimmed_lowerUnit (u : UInt16) : isTrimmed (lowerUnit u) = isTrimmed u := by
  rcases lowerUnit_cases u with heq | ⟨⟨hbefore, _⟩, hfrom, hto, hspace⟩
  · rw [heq]
  · rw [hbefore, isTrimmed]
    simp only [Bool.or_eq_false_iff, Bool.and_eq_false_iff, decide_eq_false_iff_not,
      beq_eq_false_iff_ne, ne_eq, UInt16.le_iff_toNat_le, ← UInt16.toNat_inj,
      UInt16.reduceToNat]
    omega

theorem lowerUnit_eq_iff {u sign : UInt16} (hsign : sign.toNat < 0x41) :
    lowerUnit u = sign ↔ u = sign := by
  rcases lowerUnit_cases u with heq | ⟨⟨_, hfrom⟩, hlower, _⟩
  · rw [heq]
  · refine iff_of_false ?_ ?_
    · rintro rfl
      omega
    · rintro rfl
      omega

theorem varyTokens_toLowerCase (vary : JsString) :
    varyTokens (toLowerCase vary) = (varyTokens vary).map toLowerCase :=
  tokens_map isTrimmed_lowerUnit (fun _ => lowerUnit_eq_iff (by decide)) vary

theorem toLowerCase_eq_wildcard {token : JsString} (h : toLowerCase token = wildcard) :
    token = wildcard := by
  cases token with
  | nil => cases h
  | cons u rest =>
      obtain ⟨hu, hrest⟩ := List.cons.inj h
      rw [List.map_eq_nil_iff.mp hrest, (lowerUnit_eq_iff (by decide)).mp hu]
      rfl

theorem varyTokens_trim (vary : JsString) : varyTokens (trim vary) = varyTokens vary :=
  tokens_strip (by decide) vary

theorem varyTokens_intercalate (texts : List JsString) :
    varyTokens ((js ", ").intercalate texts) = texts.flatMap varyTokens :=
  tokens_intercalate (by decide) (by decide) texts

/-! ## Coverage -/

theorem Mentions.of_toLowerCase {vary other token : JsString}
    (h : toLowerCase vary = toLowerCase other) (hmentions : Mentions other token) :
    Mentions vary token := by
  have hmem : ∀ named ∈ varyTokens other,
      ∃ same ∈ varyTokens vary, toLowerCase same = toLowerCase named := by
    intro named hnamed
    have hmap := @List.mem_map_of_mem _ _ _ _ toLowerCase hnamed
    rw [← varyTokens_toLowerCase, ← h, varyTokens_toLowerCase] at hmap
    exact List.mem_map.mp hmap
  rcases hmentions with hwildcard | ⟨named, hnamed, heq⟩
  · obtain ⟨same, hsame, heq⟩ := hmem _ hwildcard
    exact Or.inl (toLowerCase_eq_wildcard (heq.trans (by decide)) ▸ hsame)
  · obtain ⟨same, hsame, hlower⟩ := hmem named hnamed
    exact Or.inr ⟨same, hsame, hlower.trans heq⟩

theorem Mentions.intercalate {texts : List JsString} {text token : JsString} (hmem : text ∈ texts)
    (h : Mentions text token) : Mentions ((js ", ").intercalate texts) token := by
  have hpart : ∀ named ∈ varyTokens text, named ∈ texts.flatMap varyTokens := fun named hnamed =>
    List.mem_flatMap.mpr ⟨text, hmem, hnamed⟩
  rw [Mentions, varyTokens_intercalate]
  rcases h with hwildcard | ⟨named, hnamed, heq⟩
  · exact Or.inl (hpart _ hwildcard)
  · exact Or.inr ⟨named, hpart _ hnamed, heq⟩

theorem mentions_wildcard (token : JsString) : Mentions wildcard token := Or.inl (by decide)

theorem mentions_self {vary token : JsString} (h : token ∈ varyTokens vary) :
    Mentions vary token := Or.inr ⟨token, h, rfl⟩

section Merge

variable (existing : Option HeaderValue) (values : List JsString)

def currentVary : JsString := (existing.map HeaderValue.text).getD []

def listedVary : List JsString :=
  varyTokens (currentVary existing) ++ (values.map trim).filter (!·.isEmpty)

theorem mergeVary_eq :
    mergeVary existing values =
      if wildcard ∈ listedVary existing values then wildcard
      else (js ", ").intercalate (distinctBy toLowerCase [] (listedVary existing values)) := by
  have hlisted :
      (((currentVary existing).splitOn 0x2C ++ values).map trim).filter (!·.isEmpty) =
        listedVary existing values := by
    rw [List.map_append, List.filter_append]
    rfl
  cases existing with
  | none =>
      rw [← hlisted]
      rfl
  | some value =>
      rw [← hlisted]
      rfl

variable {existing values}

theorem mem_listedVary {text : JsString} :
    text ∈ listedVary existing values ↔
      text ∈ varyTokens (currentVary existing) ∨
        ∃ value ∈ values, trim value = text ∧ text ≠ [] := by
  rw [listedVary, List.mem_append, List.mem_filter, List.mem_map]
  apply or_congr_right
  constructor
  · rintro ⟨⟨value, hvalue, heq⟩, hne⟩
    exact ⟨value, hvalue, heq, by simpa using hne⟩
  · rintro ⟨value, hvalue, heq, hne⟩
    exact ⟨⟨value, hvalue, heq⟩, by simpa using hne⟩

theorem varyTokens_listed {text : JsString} (h : text ∈ listedVary existing values) :
    varyTokens text = [text] ∨ ∃ value ∈ values, trim value = text := by
  rcases mem_listedVary.mp h with htoken | ⟨value, hvalue, heq, _⟩
  · exact Or.inl (tokens_token htoken)
  · exact Or.inr ⟨value, hvalue, heq⟩

theorem mentions_mergeVary {token : JsString}
    (h : Mentions (currentVary existing) token ∨ ∃ value ∈ values, Mentions value token) :
    Mentions (mergeVary existing values) token := by
  rw [mergeVary_eq]
  split_ifs with hwildcard
  · exact mentions_wildcard token
  · have hpiece : ∃ text ∈ listedVary existing values, Mentions text token := by
      rcases h with (hmem | ⟨named, hnamed, heq⟩) | ⟨value, hvalue, hmentions⟩
      · exact absurd (mem_listedVary.mpr (Or.inl hmem)) hwildcard
      · have hself : named ∈ varyTokens named := by
          rw [varyTokens, tokens_token hnamed]
          exact List.mem_cons_self
        exact ⟨named, mem_listedVary.mpr (Or.inl hnamed), Or.inr ⟨named, hself, heq⟩⟩
      · rw [Mentions, ← varyTokens_trim] at hmentions
        refine ⟨trim value, mem_listedVary.mpr (Or.inr ⟨value, hvalue, rfl, ?_⟩), hmentions⟩
        intro hnil
        rw [hnil] at hmentions
        rcases hmentions with hmem | ⟨_, hmem, _⟩ <;> cases hmem
    obtain ⟨text, htext, hmentions⟩ := hpiece
    rcases @distinctBy_keeps _ _ _ toLowerCase [] _ _ htext with hseen | ⟨kept, hkept, heq⟩
    · cases hseen
    · exact Mentions.intercalate hkept (Mentions.of_toLowerCase heq hmentions)

theorem mergeVary_eq_wildcard
    (hvalues : ∀ value ∈ values, wildcard ∈ varyTokens value → trim value = wildcard)
    (h : wildcard ∈ varyTokens (mergeVary existing values)) :
    mergeVary existing values = wildcard := by
  rw [mergeVary_eq] at h ⊢
  split_ifs at h ⊢ with hwildcard
  · rfl
  · rw [varyTokens_intercalate] at h
    obtain ⟨text, hkept, hmem⟩ := List.mem_flatMap.mp h
    have hlisted := mem_of_mem_distinctBy _ hkept
    exfalso
    apply hwildcard
    rcases varyTokens_listed hlisted with hsingle | ⟨value, hvalue, heq⟩
    · rw [hsingle] at hmem
      exact List.mem_singleton.mp hmem ▸ hlisted
    · have hvalueTokens : wildcard ∈ varyTokens value := by
        rw [← varyTokens_trim, heq]
        exact hmem
      exact (hvalues value hvalue hvalueTokens) ▸ heq ▸ hlisted

/-! ## Units -/

theorem mem_mergeVary {u : UInt16} (h : u ∈ mergeVary existing values) :
    u ∈ currentVary existing ∨ (∃ value ∈ values, u ∈ value) ∨
      u ∈ js ", " ++ wildcard := by
  rw [mergeVary_eq] at h
  split_ifs at h
  · exact Or.inr (Or.inr (List.mem_append_right _ h))
  · rcases mem_intercalate h with hseparator | ⟨text, hkept, hmem⟩
    · exact Or.inr (Or.inr (List.mem_append_left _ hseparator))
    · rcases mem_listedVary.mp (mem_of_mem_distinctBy _ hkept) with htoken | ⟨value, hvalue, rfl, _⟩
      · exact Or.inl (mem_of_mem_tokens htoken hmem)
      · exact Or.inr (Or.inl ⟨value, hvalue, (strip_sublist value).mem hmem⟩)

theorem trim_mergeVary : trim (mergeVary existing values) = mergeVary existing values := by
  rw [mergeVary_eq]
  split_ifs
  · decide
  · apply strip_intercalate
    intro text hkept
    rcases mem_listedVary.mp (mem_of_mem_distinctBy _ hkept) with htoken | ⟨value, _, rfl, hne⟩
    · obtain ⟨hmem, hne⟩ := List.mem_filter.mp htoken
      obtain ⟨segment, _, rfl⟩ := List.mem_map.mp hmem
      exact ⟨by simpa using hne, strip_strip segment⟩
    · exact ⟨hne, strip_strip value⟩

end Merge

end X424
