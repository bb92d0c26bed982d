import Mathlib.Data.List.DropRight
import X424.Encoding

/-!
# Base64 of the web platform

`btoa` and `atob` after the WHATWG Infra standard, and the functions of
`encoding.ts` as they are written with them.  What they compute is the strict
base64url that the rest of the development speaks of.
-/

namespace X424

namespace Base64

/-! ## btoa and atob -/

def unit (n : Nat) : UInt16 :=
  if n < 26 then UInt16.ofNat (0x41 + n)
  else if n < 52 then UInt16.ofNat (0x61 + (n - 26))
  else if n < 62 then UInt16.ofNat (0x30 + (n - 52))
  else if n = 62 then 0x2B
  else 0x2F

def value? (u : UInt16) : Option Nat :=
  if 0x41 ≤ u && u ≤ 0x5A then some (u.toNat - 0x41)
  else if 0x61 ≤ u && u ≤ 0x7A then some (u.toNat - 0x61 + 26)
  else if 0x30 ≤ u && u ≤ 0x39 then some (u.toNat - 0x30 + 52)
  else if u = 0x2B then some 62
  else if u = 0x2F then some 63
  else none

def padding : UInt16 := 0x3D

def btoa : List UInt8 → JsString
  | [] => []
  | [a] => [unit (a.toNat / 4), unit (a.toNat % 4 * 16), padding, padding]
  | [a, b] =>
      [unit (a.toNat / 4), unit (a.toNat % 4 * 16 + b.toNat / 16), unit (b.toNat % 16 * 4), padding]
  | a :: b :: c :: rest =>
      unit (a.toNat / 4) :: unit (a.toNat % 4 * 16 + b.toNat / 16) ::
        unit (b.toNat % 16 * 4 + c.toNat / 64) :: unit (c.toNat % 64) :: btoa rest

def isAsciiWhitespace (u : UInt16) : Bool :=
  u == 0x09 || u == 0x0A || u == 0x0C || u == 0x0D || u == 0x20

def dropPadding (data : JsString) : JsString :=
  if data.getLast? = some padding then
    if data.dropLast.getLast? = some padding then data.dropLast.dropLast else data.dropLast
  else data

/-- Groups of six bits as bytes; bits that do not fill a byte are discarded. -/
def bytesOf : List Nat → List UInt8
  | [] => []
  | [_] => []
  | [w, x] => [UInt8.ofNat (w * 4 + x / 16)]
  | [w, x, y] => [UInt8.ofNat (w * 4 + x / 16), UInt8.ofNat (x % 16 * 16 + y / 4)]
  | w :: x :: y :: z :: rest =>
      UInt8.ofNat (w * 4 + x / 16) :: UInt8.ofNat (x % 16 * 16 + y / 4) ::
        UInt8.ofNat (y % 4 * 64 + z) :: bytesOf rest

def atob (data : JsString) : Option (List UInt8) :=
  let data := data.filter fun u => !isAsciiWhitespace u
  let data := if data.length % 4 = 0 then dropPadding data else data
  if data.length % 4 = 1 then none else (data.mapM value?).map bytesOf

/-! ## encoding.ts -/

/-- `text.replaceAll` of one character by another. -/
def replaceAll (u v : UInt16) (text : JsString) : JsString :=
  text.map fun w => if w = u then v else w

def encodeStrictBase64Url (bytes : List UInt8) : JsString :=
  (replaceAll 0x2F 0x5F (replaceAll 0x2B 0x2D (btoa bytes))).rdropWhile fun u => u == padding

def decodeStrictBase64Url (value label : JsString) : Except JsError (List UInt8) :=
  if value.isEmpty then .error ⟨js "Empty " ++ label⟩
  else if value.contains padding then .error ⟨label ++ js " must not include padding"⟩
  else if !value.all isBase64UrlUnit then .error ⟨js "Invalid " ++ label ++ js " alphabet"⟩
  else
    let padLen := (4 - value.length % 4) % 4
    let padded := replaceAll 0x5F 0x2F (replaceAll 0x2D 0x2B value) ++
      List.replicate padLen padding
    match atob padded with
    | none => .error ⟨js "Malformed " ++ label⟩
    | some bytes =>
        if encodeStrictBase64Url bytes ≠ value then .error ⟨js "Non-canonical " ++ label⟩
        else .ok bytes

/-! ## The two alphabets -/

theorem replaceAll_unit (n : Nat) (rest : JsString) :
    replaceAll 0x2F 0x5F (replaceAll 0x2B 0x2D (unit n :: rest)) =
      base64UrlUnit n :: replaceAll 0x2F 0x5F (replaceAll 0x2B 0x2D rest) := by
  have hunit : (if (if unit n = 0x2B then 0x2D else unit n) = 0x2F then 0x5F
      else if unit n = 0x2B then 0x2D else unit n) = base64UrlUnit n := by
    by_cases h : n < 64
    · interval_cases n <;> decide
    · simp [unit, base64UrlUnit, show ¬ n < 26 by omega, show ¬ n < 52 by omega,
        show ¬ n < 62 by omega, show ¬ n = 62 by omega]
  rw [← hunit]
  rfl

theorem replaceAll_btoa (bytes : List UInt8) :
    replaceAll 0x2F 0x5F (replaceAll 0x2B 0x2D (btoa bytes)) =
      X424.encodeStrictBase64Url bytes ++ List.replicate ((3 - bytes.length % 3) % 3) padding := by
  induction bytes using btoa.induct with
  | case1 => rfl
  | case2 a =>
      simp only [btoa, X424.encodeStrictBase64Url, replaceAll_unit]
      rfl
  | case3 a b =>
      simp only [btoa, X424.encodeStrictBase64Url, replaceAll_unit]
      rfl
  | case4 a b c rest ih =>
      have hlength : (a :: b :: c :: rest).length % 3 = rest.length % 3 := by
        simp only [List.length_cons]
        omega
      rw [hlength]
      simp only [btoa, X424.encodeStrictBase64Url, replaceAll_unit, ih, List.cons_append]

theorem rdropWhile_padding {text : JsString} (h : padding ∉ text) (k : Nat) :
    (text ++ List.replicate k padding).rdropWhile (fun u => u == padding) = text := by
  induction k with
  | zero =>
      rw [List.replicate_zero, List.append_nil, List.rdropWhile_eq_self_iff]
      intro hne heq
      exact h (beq_iff_eq.mp heq ▸ List.getLast_mem hne)
  | succ k ih =>
      rw [List.replicate_succ', ← List.append_assoc]
      exact (List.rdropWhile_concat_pos (fun u => u == padding) _ padding
        (beq_self_eq_true padding)).trans ih

theorem encodeStrictBase64Url_eq (bytes : List UInt8) :
    encodeStrictBase64Url bytes = X424.encodeStrictBase64Url bytes := by
  rw [encodeStrictBase64Url, replaceAll_btoa]
  exact rdropWhile_padding (not_mem_encodeStrictBase64Url (by decide) bytes) _

/-! ## Decoding -/

/-- The character that `atob` is given for one of base64url. -/
def standardUnit (u : UInt16) : UInt16 :=
  if u = 0x2D then 0x2B else if u = 0x5F then 0x2F else u

theorem replaceAll_eq_map (value : JsString) :
    replaceAll 0x5F 0x2F (replaceAll 0x2D 0x2B value) = value.map standardUnit := by
  rw [replaceAll, replaceAll, List.map_map]
  refine List.map_congr_left fun u _ => ?_
  simp only [Function.comp_apply, standardUnit]
  split_ifs <;> simp_all

theorem value?_standardUnit {u : UInt16} (h : isBase64UrlUnit u = true) :
    value? (standardUnit u) = base64UrlValue? u := by
  by_cases hminus : u = 0x2D
  · subst hminus
    rfl
  by_cases hline : u = 0x5F
  · subst hline
    rfl
  have hrange : (0x41 ≤ u && u ≤ 0x5A) = true ∨ (0x61 ≤ u && u ≤ 0x7A) = true ∨
      (0x30 ≤ u && u ≤ 0x39) = true := by
    simpa [isBase64UrlUnit, hminus, hline, or_assoc] using h
  rw [standardUnit, if_neg hminus, if_neg hline, value?, base64UrlValue?]
  split_ifs with hupper hlower hdigit <;> first
    | rfl
    | exact absurd hrange (by simp [hupper, hlower, hdigit])

theorem standardUnit_spec {u : UInt16} (h : isBase64UrlUnit u = true) :
    isAsciiWhitespace (standardUnit u) = false ∧ standardUnit u ≠ padding := by
  have hvalue : ∀ v, isAsciiWhitespace v = true ∨ v = padding → value? v = none := by
    intro v hv
    simp only [isAsciiWhitespace, Bool.or_eq_true, beq_iff_eq] at hv
    rcases hv with ((((rfl | rfl) | rfl) | rfl) | rfl) | rfl <;> rfl
  have hsome : value? (standardUnit u) ≠ none := by
    rw [value?_standardUnit h]
    intro hnone
    simp only [base64UrlValue?] at hnone
    split_ifs at hnone with h1 h2 h3 h4 h5
    simp [isBase64UrlUnit, h1, h2, h3, h4, h5] at h
  constructor
  · exact Bool.eq_false_iff.mpr fun hspace => hsome (hvalue _ (.inl hspace))
  · exact fun hpadding => hsome (hvalue _ (.inr hpadding))

theorem atob_eq_bytesOf (value : JsString) :
    X424.atob value =
      if value.length % 4 = 1 then none else (value.mapM base64UrlValue?).map bytesOf := by
  induction value using X424.atob.induct with
  | case1 => rfl
  | case2 u => rfl
  | case3 w x =>
      rw [if_neg (by simp)]
      cases hw : base64UrlValue? w <;> cases hx : base64UrlValue? x <;>
        simp [X424.atob, hw, hx, bytesOf]
  | case4 w x y =>
      rw [if_neg (by simp)]
      cases hw : base64UrlValue? w <;> cases hx : base64UrlValue? x <;>
        cases hy : base64UrlValue? y <;> simp [X424.atob, hw, hx, hy, bytesOf]
  | case5 w x y z rest ih =>
      have hlength : (w :: x :: y :: z :: rest).length % 4 = rest.length % 4 := by
        simp only [List.length_cons]
        omega
      rw [hlength, X424.atob, ih]
      cases hw : base64UrlValue? w with
      | none => simp [hw]
      | some w' =>
      cases hx : base64UrlValue? x with
      | none => simp [hw, hx]
      | some x' =>
      cases hy : base64UrlValue? y with
      | none => simp [hw, hx, hy]
      | some y' =>
      cases hz : base64UrlValue? z with
      | none => simp [hw, hx, hy, hz]
      | some z' =>
      split_ifs with hone
      · rfl
      · cases hrest : rest.mapM base64UrlValue? <;> simp [hw, hx, hy, hz, hrest, bytesOf]

theorem dropPadding_append {data : JsString} (h : padding ∉ data) (k : Nat) :
    dropPadding (data ++ List.replicate k padding) =
      data ++ List.replicate (k - 2) padding := by
  have hlast : data.getLast? ≠ some padding := fun heq => h (List.mem_of_getLast? heq)
  match k with
  | 0 => rw [List.replicate_zero, List.append_nil, dropPadding, if_neg hlast]
  | 1 =>
      rw [List.replicate_one, dropPadding, if_pos List.getLast?_concat, List.dropLast_concat,
        if_neg hlast]
      exact (List.append_nil _).symm
  | k + 2 =>
      rw [List.replicate_succ', ← List.append_assoc, dropPadding, if_pos List.getLast?_concat,
        List.dropLast_concat, List.replicate_succ', ← List.append_assoc,
        if_pos List.getLast?_concat, List.dropLast_concat, Nat.add_sub_cancel]

theorem mapM_standardUnit {value : JsString} (h : ∀ u ∈ value, isBase64UrlUnit u = true) :
    (value.map standardUnit).mapM value? = value.mapM base64UrlValue? := by
  induction value with
  | nil => rfl
  | cons u value ih =>
      obtain ⟨hunit, hvalue⟩ := List.forall_mem_cons.mp h
      rw [List.map_cons, List.mapM_cons, List.mapM_cons, value?_standardUnit hunit, ih hvalue]

/-- What `atob` makes of the padded text. -/
theorem atob_padded {value : JsString} (h : ∀ u ∈ value, isBase64UrlUnit u = true) :
    atob (value.map standardUnit ++ List.replicate ((4 - value.length % 4) % 4) padding) =
      X424.atob value := by
  have hpadding : padding ∉ value.map standardUnit := by
    intro hmem
    obtain ⟨u, hu, heq⟩ := List.mem_map.mp hmem
    exact (standardUnit_spec (h u hu)).2 heq
  have hfilter : (value.map standardUnit ++
      List.replicate ((4 - value.length % 4) % 4) padding).filter
        (fun u => !isAsciiWhitespace u) =
      value.map standardUnit ++ List.replicate ((4 - value.length % 4) % 4) padding := by
    refine List.filter_eq_self.mpr fun u hu => ?_
    rcases List.mem_append.mp hu with hu | hu
    · obtain ⟨v, hv, rfl⟩ := List.mem_map.mp hu
      rw [(standardUnit_spec (h v hv)).1]
      rfl
    · rw [List.eq_of_mem_replicate hu]
      rfl
  have hwhole : (value.map standardUnit ++
      List.replicate ((4 - value.length % 4) % 4) padding).length % 4 = 0 := by
    rw [List.length_append, List.length_map, List.length_replicate]
    omega
  rw [atob, atob_eq_bytesOf]
  simp only [hfilter, hwhole, if_true, dropPadding_append hpadding]
  by_cases hone : value.length % 4 = 1
  · -- one padding character is left, which is no digit
    have hleft : (4 - value.length % 4) % 4 - 2 = 1 := by omega
    rw [hleft, if_pos hone, List.replicate_one, if_neg, List.mapM_append]
    · cases (value.map standardUnit).mapM value? <;> rfl
    · rw [List.length_append, List.length_map, List.length_singleton]
      omega
  · have hleft : (4 - value.length % 4) % 4 - 2 = 0 := by omega
    rw [hleft, List.replicate_zero, List.append_nil, List.length_map, if_neg hone, if_neg hone,
      mapM_standardUnit h]

theorem decodeStrictBase64Url_eq (value label : JsString) :
    decodeStrictBase64Url value label = X424.decodeStrictBase64Url value label := by
  unfold decodeStrictBase64Url X424.decodeStrictBase64Url
  by_cases hall : value.all isBase64UrlUnit = true
  · simp only [replaceAll_eq_map, atob_padded (List.all_eq_true.mp hall), encodeStrictBase64Url_eq]
    rfl
  · rw [Bool.not_eq_true] at hall
    simp only [hall, Bool.not_false, if_true]
    rfl

/-! ## One spelling of every byte string -/

theorem decodeStrictBase64Url_refuses {value : JsString} (label : JsString)
    (h : (∃ u ∈ value, isBase64UrlUnit u = false) ∨ value.length % 4 = 1) :
    ∃ error, decodeStrictBase64Url value label = .error error := by
  rw [decodeStrictBase64Url_eq]
  cases hdecoded : X424.decodeStrictBase64Url value label with
  | error error => exact ⟨error, rfl⟩
  | ok bytes =>
      obtain ⟨-, rfl⟩ := decodeStrictBase64Url_eq_ok.mp hdecoded
      rcases h with ⟨u, hmem, hunit⟩ | hlength
      · exact absurd hmem (not_mem_encodeStrictBase64Url hunit bytes)
      · rw [length_encodeStrictBase64Url] at hlength
        omega

end Base64

/-- Bytes and texts determine each other, and the digests are the texts of 32 bytes. -/
theorem strictBase64Url_bijective (label : JsString) :
    (∀ bytes : List UInt8, bytes ≠ [] →
      Base64.decodeStrictBase64Url (Base64.encodeStrictBase64Url bytes) label = .ok bytes) ∧
    (∀ value bytes, Base64.decodeStrictBase64Url value label = .ok bytes →
      Base64.encodeStrictBase64Url bytes = value) ∧
    (∀ value, ((∃ u ∈ value, isBase64UrlUnit u = false) ∨ value.length % 4 = 1) →
      ∃ error, Base64.decodeStrictBase64Url value label = .error error) ∧
    ∀ digest, assertSha256Digest digest = .ok digest ↔
      ∃ bytes : List UInt8, bytes.length = 32 ∧
        digest = js "sha256:" ++ Base64.encodeStrictBase64Url bytes := by
  refine ⟨fun bytes hne => ?_, fun value bytes h => ?_, fun value h =>
    Base64.decodeStrictBase64Url_refuses label h, fun digest => ?_⟩
  · rw [Base64.decodeStrictBase64Url_eq, Base64.encodeStrictBase64Url_eq]
    exact decodeStrictBase64Url_eq_ok.mpr ⟨fun h => hne (encodeStrictBase64Url_eq_nil.mp h), rfl⟩
  · rw [Base64.decodeStrictBase64Url_eq] at h
    rw [Base64.encodeStrictBase64Url_eq]
    exact (decodeStrictBase64Url_eq_ok.mp h).2.symm
  · simp only [Base64.encodeStrictBase64Url_eq]
    exact assertSha256Digest_eq_ok.trans (and_iff_right rfl)

end X424
