import X424.Js.Quote

/-!
# Byte encodings

`encoding.ts`: strict base64url, digests and UTF-8.  Every decoder refuses a
text that its encoder would not have written.
-/

namespace X424

/-! ## Base64url -/

def base64UrlUnit (n : Nat) : UInt16 :=
  if n < 26 then UInt16.ofNat (0x41 + n)
  else if n < 52 then UInt16.ofNat (0x61 + (n - 26))
  else if n < 62 then UInt16.ofNat (0x30 + (n - 52))
  else if n = 62 then 0x2D
  else 0x5F

def base64UrlValue? (u : UInt16) : Option Nat :=
  if 0x41 ≤ u && u ≤ 0x5A then some (u.toNat - 0x41)
  else if 0x61 ≤ u && u ≤ 0x7A then some (u.toNat - 0x61 + 26)
  else if 0x30 ≤ u && u ≤ 0x39 then some (u.toNat - 0x30 + 52)
  else if u = 0x2D then some 62
  else if u = 0x5F then some 63
  else none

def encodeStrictBase64Url : List UInt8 → JsString
  | [] => []
  | [a] => [base64UrlUnit (a.toNat / 4), base64UrlUnit (a.toNat % 4 * 16)]
  | [a, b] =>
      [base64UrlUnit (a.toNat / 4), base64UrlUnit (a.toNat % 4 * 16 + b.toNat / 16),
        base64UrlUnit (b.toNat % 16 * 4)]
  | a :: b :: c :: rest =>
      base64UrlUnit (a.toNat / 4) :: base64UrlUnit (a.toNat % 4 * 16 + b.toNat / 16) ::
        base64UrlUnit (b.toNat % 16 * 4 + c.toNat / 64) :: base64UrlUnit (c.toNat % 64) ::
        encodeStrictBase64Url rest

/-- `atob` of the padded text: spare bits are dropped. -/
def atob : JsString → Option (List UInt8)
  | [] => some []
  | [_] => none
  | [w, x] => do
      let w ← base64UrlValue? w
      let x ← base64UrlValue? x
      some [UInt8.ofNat (w * 4 + x / 16)]
  | [w, x, y] => do
      let w ← base64UrlValue? w
      let x ← base64UrlValue? x
      let y ← base64UrlValue? y
      some [UInt8.ofNat (w * 4 + x / 16), UInt8.ofNat (x % 16 * 16 + y / 4)]
  | w :: x :: y :: z :: rest => do
      let w ← base64UrlValue? w
      let x ← base64UrlValue? x
      let y ← base64UrlValue? y
      let z ← base64UrlValue? z
      let bytes ← atob rest
      some (UInt8.ofNat (w * 4 + x / 16) :: UInt8.ofNat (x % 16 * 16 + y / 4) ::
        UInt8.ofNat (y % 4 * 64 + z) :: bytes)

def decodeStrictBase64Url (value label : JsString) : Except JsError (List UInt8) :=
  if value.isEmpty then .error ⟨js "Empty " ++ label⟩
  else if value.contains 0x3D then .error ⟨label ++ js " must not include padding"⟩
  else if !value.all isBase64UrlUnit then .error ⟨js "Invalid " ++ label ++ js " alphabet"⟩
  else
    match atob value with
    | none => .error ⟨js "Malformed " ++ label⟩
    | some bytes =>
        if encodeStrictBase64Url bytes ≠ value then .error ⟨js "Non-canonical " ++ label⟩
        else .ok bytes

theorem base64UrlValue?_unit {n : Nat} (h : n < 64) :
    base64UrlValue? (base64UrlUnit n) = some n := by
  interval_cases n <;> decide

theorem isBase64UrlUnit_unit (n : Nat) : isBase64UrlUnit (base64UrlUnit n) = true := by
  by_cases h : n < 64
  · interval_cases n <;> decide
  · simp [base64UrlUnit, show ¬ n < 26 by omega, show ¬ n < 52 by omega,
      show ¬ n < 62 by omega, show ¬ n = 62 by omega]
    decide

private theorem byte_eq {n : Nat} {a : UInt8} (h : n = a.toNat) : UInt8.ofNat n = a := by
  rw [h, UInt8.ofNat_toNat]

theorem atob_encodeStrictBase64Url (bytes : List UInt8) :
    atob (encodeStrictBase64Url bytes) = some bytes := by
  induction bytes using encodeStrictBase64Url.induct with
  | case1 => rfl
  | case2 a =>
      have ha : a.toNat < 256 := a.toNat_lt
      simp only [encodeStrictBase64Url, atob, base64UrlValue?_unit (n := a.toNat / 4) (by omega),
        base64UrlValue?_unit (n := a.toNat % 4 * 16) (by omega), Option.bind_eq_bind,
        Option.bind_some, Option.some.injEq, List.cons.injEq, and_true]
      exact byte_eq (by omega)
  | case3 a b =>
      have ha : a.toNat < 256 := a.toNat_lt
      have hb : b.toNat < 256 := b.toNat_lt
      simp only [encodeStrictBase64Url, atob, base64UrlValue?_unit (n := a.toNat / 4) (by omega),
        base64UrlValue?_unit (n := a.toNat % 4 * 16 + b.toNat / 16) (by omega),
        base64UrlValue?_unit (n := b.toNat % 16 * 4) (by omega), Option.bind_eq_bind,
        Option.bind_some, Option.some.injEq, List.cons.injEq, and_true]
      exact ⟨byte_eq (by omega), byte_eq (by omega)⟩
  | case4 a b c rest ih =>
      have ha : a.toNat < 256 := a.toNat_lt
      have hb : b.toNat < 256 := b.toNat_lt
      have hc : c.toNat < 256 := c.toNat_lt
      simp only [encodeStrictBase64Url, atob, base64UrlValue?_unit (n := a.toNat / 4) (by omega),
        base64UrlValue?_unit (n := a.toNat % 4 * 16 + b.toNat / 16) (by omega),
        base64UrlValue?_unit (n := b.toNat % 16 * 4 + c.toNat / 64) (by omega),
        base64UrlValue?_unit (n := c.toNat % 64) (by omega), ih, Option.bind_eq_bind,
        Option.bind_some, Option.some.injEq, List.cons.injEq, and_true]
      exact ⟨byte_eq (by omega), byte_eq (by omega), byte_eq (by omega)⟩

theorem all_encodeStrictBase64Url (bytes : List UInt8) :
    (encodeStrictBase64Url bytes).all isBase64UrlUnit = true := by
  induction bytes using encodeStrictBase64Url.induct with
  | case1 => rfl
  | case2 a => simp [encodeStrictBase64Url, isBase64UrlUnit_unit]
  | case3 a b => simp [encodeStrictBase64Url, isBase64UrlUnit_unit]
  | case4 a b c rest ih =>
      simp only [encodeStrictBase64Url, List.all_cons, isBase64UrlUnit_unit, ih, Bool.and_self]

theorem length_encodeStrictBase64Url (bytes : List UInt8) :
    (encodeStrictBase64Url bytes).length = (4 * bytes.length + 2) / 3 := by
  induction bytes using encodeStrictBase64Url.induct with
  | case1 => rfl
  | case2 a => simp [encodeStrictBase64Url]
  | case3 a b => simp [encodeStrictBase64Url]
  | case4 a b c rest ih =>
      simp only [encodeStrictBase64Url, List.length_cons, ih]
      omega

theorem not_mem_encodeStrictBase64Url {u : UInt16} (h : isBase64UrlUnit u = false)
    (bytes : List UInt8) : u ∉ encodeStrictBase64Url bytes := by
  intro hmem
  have hunit := List.all_eq_true.mp (all_encodeStrictBase64Url bytes) u hmem
  rw [h] at hunit
  exact Bool.false_ne_true hunit

theorem decodeStrictBase64Url_eq_ok {value label : JsString} {bytes : List UInt8} :
    decodeStrictBase64Url value label = .ok bytes ↔
      value ≠ [] ∧ value = encodeStrictBase64Url bytes := by
  constructor
  · intro h
    unfold decodeStrictBase64Url at h
    split_ifs at h with hempty hpadding halphabet
    split at h
    · cases h
    · split_ifs at h with hcanonical
      cases h
      exact ⟨by simpa using hempty, (not_not.mp hcanonical).symm⟩
  · rintro ⟨hne, rfl⟩
    have hpadding := not_mem_encodeStrictBase64Url (u := 0x3D) (by decide) bytes
    simp [decodeStrictBase64Url, hne, hpadding, all_encodeStrictBase64Url,
      atob_encodeStrictBase64Url]

theorem encodeStrictBase64Url_injective : Function.Injective encodeStrictBase64Url := by
  intro a b h
  have hdecoded := congrArg atob h
  rwa [atob_encodeStrictBase64Url, atob_encodeStrictBase64Url, Option.some.injEq] at hdecoded

theorem encodeStrictBase64Url_eq_nil {bytes : List UInt8} :
    encodeStrictBase64Url bytes = [] ↔ bytes = [] :=
  ⟨fun h => encodeStrictBase64Url_injective (h.trans rfl), fun h => h ▸ rfl⟩

/-! ## Digests -/

def assertSha256Digest (digest : JsString) : Except JsError JsString :=
  if digest.take 7 ≠ js "sha256:" then .error ⟨js "Digest must use sha256: prefix"⟩
  else
    match decodeStrictBase64Url (digest.drop 7) (js "sha256 digest") with
    | .error error => .error error
    | .ok bytes =>
        if bytes.length ≠ 32 then .error ⟨js "SHA-256 digest must decode to 32 bytes"⟩
        else .ok digest

theorem assertSha256Digest_eq_ok {digest digest' : JsString} :
    assertSha256Digest digest = .ok digest' ↔
      digest' = digest ∧ ∃ bytes : List UInt8, bytes.length = 32 ∧
        digest = js "sha256:" ++ encodeStrictBase64Url bytes := by
  unfold assertSha256Digest
  constructor
  · intro h
    split_ifs at h with hprefix
    split at h
    · cases h
    · rename_i bytes hbytes
      split_ifs at h with hlength
      cases h
      refine ⟨rfl, bytes, not_not.mp hlength, ?_⟩
      rw [← (decodeStrictBase64Url_eq_ok.mp hbytes).2, ← not_not.mp hprefix,
        List.take_append_drop]
  · rintro ⟨rfl, bytes, hlength, rfl⟩
    have hne : encodeStrictBase64Url bytes ≠ [] := by
      rw [Ne, encodeStrictBase64Url_eq_nil]
      rintro rfl
      exact absurd hlength (by decide)
    have hdrop : (js "sha256:" ++ encodeStrictBase64Url bytes).drop 7 =
        encodeStrictBase64Url bytes := rfl
    have htake : (js "sha256:" ++ encodeStrictBase64Url bytes).take 7 = js "sha256:" := rfl
    rw [hdrop, htake, decodeStrictBase64Url_eq_ok.mpr ⟨hne, rfl⟩]
    simp [hlength]

/-! ## UTF-8 -/

def unpairedChar (u : UInt16) : Char :=
  if isLeadSurrogate u || isTrailSurrogate u then Char.ofNat 0xFFFD else Char.ofNat u.toNat

def pairedChar (u v : UInt16) : Char :=
  Char.ofNat (0x10000 + (u.toNat - 0xD800) * 0x400 + (v.toNat - 0xDC00))

/-- The scalar values of a text; an unpaired surrogate reads as `U+FFFD`. -/
def toChars : JsString → List Char
  | [] => []
  | [u] => [unpairedChar u]
  | u :: v :: rest =>
      if isLeadSurrogate u && isTrailSurrogate v then pairedChar u v :: toChars rest
      else unpairedChar u :: toChars (v :: rest)

/-- `Buffer.from(text, "utf8")`. -/
def utf8 (text : JsString) : List UInt8 := (toChars text).flatMap String.utf8EncodeChar

/-- `TextDecoder` drops a byte order mark. -/
def dropByteOrderMark : JsString → JsString
  | [] => []
  | u :: rest => if u = 0xFEFF then rest else u :: rest

def decodeStrictUtf8 (bytes : List UInt8) (label : JsString) : Except JsError JsString :=
  match bytes.toByteArray.utf8Decode? with
  | none => .error ⟨js "Malformed " ++ label⟩
  | some chars => .ok (dropByteOrderMark (chars.toList.flatMap codeUnits))

def IsText (s : JsString) : Prop := ∃ chars : List Char, s = chars.flatMap codeUnits

theorem isText_js (literal : String) : IsText (js literal) := ⟨literal.toList, rfl⟩

theorem IsText.append {s t : JsString} (hs : IsText s) (ht : IsText t) : IsText (s ++ t) := by
  obtain ⟨chars, rfl⟩ := hs
  obtain ⟨chars', rfl⟩ := ht
  exact ⟨chars ++ chars', by rw [List.flatMap_append]⟩

private theorem toNat_ofNat {n : Nat} (h : n.isValidChar) : (Char.ofNat n).toNat = n := by
  rw [Char.ofNat, dif_pos h]
  rfl

theorem IsText.cons {c : Char} {u : UInt16} {s : JsString} (hu : codeUnits c = [u])
    (hs : IsText s) : IsText (u :: s) := by
  obtain ⟨chars, rfl⟩ := hs
  exact ⟨c :: chars, by simp [hu]⟩

private theorem codeUnits_cases (c : Char) :
    (∃ u, codeUnits c = [u] ∧ isLeadSurrogate u = false ∧ isTrailSurrogate u = false ∧
        Char.ofNat u.toNat = c) ∨
    ∃ u v, codeUnits c = [u, v] ∧ isLeadSurrogate u = true ∧ isTrailSurrogate v = true ∧
      pairedChar u v = c := by
  have hvalid : c.toNat < 0xD800 ∨ 0xDFFF < c.toNat ∧ c.toNat < 0x110000 := c.valid
  unfold codeUnits
  split_ifs with hsmall
  · refine Or.inl ⟨_, rfl, ?_, ?_, ?_⟩
    · simp only [isLeadSurrogate, Bool.and_eq_false_iff, decide_eq_false_iff_not,
        UInt16.le_iff_toNat_le, UInt16.toNat_ofNat', UInt16.reduceToNat]
      omega
    · simp only [isTrailSurrogate, Bool.and_eq_false_iff, decide_eq_false_iff_not,
        UInt16.le_iff_toNat_le, UInt16.toNat_ofNat', UInt16.reduceToNat]
      omega
    · rw [UInt16.toNat_ofNat', Nat.mod_eq_of_lt (by omega), Char.ofNat_toNat]
  · refine Or.inr ⟨_, _, rfl, ?_, ?_, ?_⟩
    · simp only [isLeadSurrogate, Bool.and_eq_true, decide_eq_true_eq,
        UInt16.le_iff_toNat_le, UInt16.toNat_ofNat', UInt16.reduceToNat]
      omega
    · simp only [isTrailSurrogate, Bool.and_eq_true, decide_eq_true_eq,
        UInt16.le_iff_toNat_le, UInt16.toNat_ofNat', UInt16.reduceToNat]
      omega
    · unfold pairedChar
      rw [UInt16.toNat_ofNat', UInt16.toNat_ofNat', Nat.mod_eq_of_lt (by omega),
        Nat.mod_eq_of_lt (by omega)]
      have hvalue : 0x10000 + (0xD800 + (c.toNat - 0x10000) / 0x400 - 0xD800) * 0x400 +
          (0xDC00 + (c.toNat - 0x10000) % 0x400 - 0xDC00) = c.toNat := by omega
      rw [hvalue, Char.ofNat_toNat]

theorem toChars_codeUnits (c : Char) (rest : JsString) :
    toChars (codeUnits c ++ rest) = c :: toChars rest := by
  rcases codeUnits_cases c with ⟨u, hu, hlead, htrail, hchar⟩ | ⟨u, v, huv, hlead, htrail, hchar⟩
  · rw [hu]
    cases rest with
    | nil => simp [toChars, unpairedChar, hlead, htrail, hchar]
    | cons v rest => simp [toChars, unpairedChar, hlead, htrail, hchar]
  · rw [huv]
    simp [toChars, hlead, htrail, hchar]

theorem toChars_flatMap_append (chars : List Char) (rest : JsString) :
    toChars (chars.flatMap codeUnits ++ rest) = chars ++ toChars rest := by
  induction chars with
  | nil => rfl
  | cons c chars ih =>
      rw [List.flatMap_cons, List.append_assoc, toChars_codeUnits, ih, List.cons_append]

theorem toChars_flatMap (chars : List Char) : toChars (chars.flatMap codeUnits) = chars := by
  simpa [toChars] using toChars_flatMap_append chars []

theorem utf8_append {s : JsString} (hs : IsText s) (t : JsString) :
    utf8 (s ++ t) = utf8 s ++ utf8 t := by
  obtain ⟨chars, rfl⟩ := hs
  rw [utf8, toChars_flatMap_append, utf8, toChars_flatMap, utf8, List.flatMap_append]

theorem isText_below {s : JsString} (h : ∀ u ∈ s, u < 0xD800) : IsText s := by
  induction s with
  | nil => exact ⟨[], rfl⟩
  | cons u s ih =>
      have hu : u.toNat < 0xD800 := UInt16.lt_iff_toNat_lt.mp (h u (List.mem_cons_self ..))
      refine IsText.cons (c := Char.ofNat u.toNat) ?_
        (ih fun v hv => h v (List.mem_cons_of_mem _ hv))
      rw [codeUnits, toNat_ofNat (Or.inl (by omega)), if_pos (by omega), UInt16.ofNat_toNat]

theorem isText_ascii {s : JsString} (h : ∀ u ∈ s, u < 0x80) : IsText s :=
  isText_below fun u hu => UInt16.lt_trans (h u hu) (by decide)

theorem decodeStrictUtf8_isText {text : JsString} (htext : IsText text) (label : JsString) :
    decodeStrictUtf8 (utf8 text) label = .ok (dropByteOrderMark text) := by
  obtain ⟨chars, rfl⟩ := htext
  have hbytes : (utf8 (chars.flatMap codeUnits)).toByteArray = chars.utf8Encode := by
    rw [utf8, toChars_flatMap, List.utf8Encode]
  rw [decodeStrictUtf8, hbytes, List.utf8Decode?_utf8Encode]

theorem dropByteOrderMark_of_ne {text : JsString} (h : text.head? ≠ some 0xFEFF) :
    dropByteOrderMark text = text := by
  cases text with
  | nil => rfl
  | cons u rest => exact if_neg fun hu => h (by rw [hu]; rfl)

theorem decodeStrictUtf8_utf8 {text : JsString} (htext : IsText text)
    (hmark : text.head? ≠ some 0xFEFF) (label : JsString) :
    decodeStrictUtf8 (utf8 text) label = .ok text := by
  rw [decodeStrictUtf8_isText htext, dropByteOrderMark_of_ne hmark]

theorem utf8_injective {s t : JsString} (hs : IsText s) (ht : IsText t) (h : utf8 s = utf8 t) :
    s = t := by
  obtain ⟨chars, rfl⟩ := hs
  obtain ⟨chars', rfl⟩ := ht
  rw [utf8, utf8, toChars_flatMap, toChars_flatMap] at h
  have hbytes : chars.utf8Encode = chars'.utf8Encode := congrArg List.toByteArray h
  have hdecode := congrArg ByteArray.utf8Decode? hbytes
  rw [List.utf8Decode?_utf8Encode, List.utf8Decode?_utf8Encode, Option.some.injEq] at hdecode
  rw [show chars = chars' by simpa using hdecode]

/-- The bytes of `U+FEFF`. -/
def byteOrderMark : List UInt8 := [0xEF, 0xBB, 0xBF]

theorem utf8_mark_cons (text : JsString) : utf8 (0xFEFF :: text) = byteOrderMark ++ utf8 text := by
  have hmark : IsText [0xFEFF] := isText_js (String.singleton (Char.ofNat 0xFEFF))
  have hbytes : utf8 [0xFEFF] = byteOrderMark := by decide
  rw [← hbytes, ← utf8_append hmark]
  rfl

private theorem isText_of_mark_cons {text : JsString} (h : IsText (0xFEFF :: text)) :
    IsText text := by
  obtain ⟨chars, hchars⟩ := h
  cases chars with
  | nil => cases hchars
  | cons c chars =>
      rw [List.flatMap_cons] at hchars
      rcases codeUnits_cases c with ⟨u, hu, -⟩ | ⟨u, v, huv, hlead, -⟩
      · rw [hu] at hchars
        exact ⟨chars, (List.cons.inj hchars).2⟩
      · rw [huv] at hchars
        rw [← (List.cons.inj hchars).1] at hlead
        exact absurd hlead (by decide)

theorem decodeStrictUtf8_eq_ok {bytes : List UInt8} {label text : JsString} :
    decodeStrictUtf8 bytes label = .ok text ↔
      IsText text ∧ (text.head? ≠ some 0xFEFF ∧ bytes = utf8 text ∨
        bytes = byteOrderMark ++ utf8 text) := by
  constructor
  · intro h
    unfold decodeStrictUtf8 at h
    cases hchars : bytes.toByteArray.utf8Decode? with
    | none => simp [hchars] at h
    | some chars =>
        simp only [hchars, Except.ok.injEq] at h
        have hsome : bytes.toByteArray.utf8Decode?.isSome = true := by
          rw [hchars]
          rfl
        have hencode := ByteArray.utf8Encode_get_utf8Decode? (b := bytes.toByteArray) (h := hsome)
        simp only [hchars, Option.get_some] at hencode
        have hbytes : bytes = utf8 (chars.toList.flatMap codeUnits) := by
          rw [utf8, toChars_flatMap]
          have hdata := congrArg (fun b : ByteArray => b.data.toList) hencode
          simpa [List.utf8Encode] using hdata.symm
        have htext : IsText (chars.toList.flatMap codeUnits) := ⟨_, rfl⟩
        generalize chars.toList.flatMap codeUnits = units at h hbytes htext
        by_cases hmark : units.head? = some 0xFEFF
        · obtain ⟨rest, rfl⟩ : ∃ rest, units = 0xFEFF :: rest := by
            cases units with
            | nil => cases hmark
            | cons u rest => exact ⟨rest, by rw [Option.some.inj hmark]⟩
          subst h
          exact ⟨isText_of_mark_cons htext, Or.inr (by rw [hbytes, utf8_mark_cons]; rfl)⟩
        · rw [dropByteOrderMark_of_ne hmark] at h
          subst h
          exact ⟨htext, Or.inl ⟨hmark, hbytes⟩⟩
  · rintro ⟨htext, ⟨hmark, rfl⟩ | rfl⟩
    · exact decodeStrictUtf8_utf8 htext hmark label
    · have hcons : IsText (0xFEFF :: text) :=
        (isText_js (String.singleton (Char.ofNat 0xFEFF))).append htext
      rw [← utf8_mark_cons, decodeStrictUtf8_isText hcons]
      rfl

theorem mark_prefix_utf8 {text : JsString} (htext : IsText text) :
    byteOrderMark <+: utf8 text ↔ text.head? = some 0xFEFF := by
  constructor
  · rintro ⟨rest, hrest⟩
    obtain ⟨chars, rfl⟩ := htext
    rw [utf8, toChars_flatMap] at hrest
    have hsplit : chars.utf8Encode = [Char.ofNat 0xFEFF].utf8Encode ++ rest.toByteArray := by
      rw [List.utf8Encode, ← hrest, List.toByteArray_append]
      rfl
    have hdecode := congrArg ByteArray.utf8Decode? hsplit
    rw [List.utf8Decode?_utf8Encode, ByteArray.utf8Decode?_utf8Encode_singleton_append] at hdecode
    obtain ⟨others, -, hothers⟩ := Option.map_eq_some_iff.mp hdecode.symm
    have hchars : chars = Char.ofNat 0xFEFF :: others.toList := by
      have hlist := congrArg Array.toList hothers
      simpa using hlist.symm
    rw [hchars, List.flatMap_cons]
    rfl
  · intro hmark
    cases text with
    | nil => cases hmark
    | cons u rest =>
        cases Option.some.inj hmark
        exact ⟨utf8 rest, (utf8_mark_cons rest).symm⟩

/-! ## String literals -/

private theorem codeUnits_ofNat {u : UInt16} (hlead : isLeadSurrogate u = false)
    (htrail : isTrailSurrogate u = false) : codeUnits (Char.ofNat u.toNat) = [u] := by
  have hlt : u.toNat < 65536 := u.toNat_lt
  have hvalid : u.toNat.isValidChar := by
    simp only [isLeadSurrogate, isTrailSurrogate, Bool.and_eq_false_iff, decide_eq_false_iff_not,
      UInt16.le_iff_toNat_le, UInt16.reduceToNat] at hlead htrail
    rw [Nat.isValidChar]
    omega
  rw [codeUnits, toNat_ofNat hvalid, if_pos (by omega), UInt16.ofNat_toNat]

private theorem isText_unit {u : UInt16} (hlead : isLeadSurrogate u = false)
    (htrail : isTrailSurrogate u = false) : IsText [u] :=
  ⟨[Char.ofNat u.toNat], by rw [List.flatMap_singleton, codeUnits_ofNat hlead htrail]⟩

theorem codeUnits_pairedChar {u v : UInt16} (hlead : isLeadSurrogate u = true)
    (htrail : isTrailSurrogate v = true) : codeUnits (pairedChar u v) = [u, v] := by
  simp only [isLeadSurrogate, isTrailSurrogate, Bool.and_eq_true, decide_eq_true_eq,
    UInt16.le_iff_toNat_le, UInt16.reduceToNat] at hlead htrail
  rw [codeUnits, pairedChar, toNat_ofNat (by rw [Nat.isValidChar]; omega), if_neg (by omega)]
  have hu : 0xD800 + (0x10000 + (u.toNat - 0xD800) * 0x400 + (v.toNat - 0xDC00) - 0x10000) / 0x400
      = u.toNat := by omega
  have hv : 0xDC00 + (0x10000 + (u.toNat - 0xD800) * 0x400 + (v.toNat - 0xDC00) - 0x10000) % 0x400
      = v.toNat := by omega
  rw [hu, hv, UInt16.ofNat_toNat, UInt16.ofNat_toNat]

theorem isText_pair {u v : UInt16} (hlead : isLeadSurrogate u = true)
    (htrail : isTrailSurrogate v = true) : IsText [u, v] :=
  ⟨[pairedChar u v], by rw [List.flatMap_singleton, codeUnits_pairedChar hlead htrail]⟩

theorem quoteUnit_cases (u : UInt16) :
    (isLeadSurrogate u = false ∧ isTrailSurrogate u = false ∧ quoteUnit u = [u]) ∨
      ((quoteUnit u).length ≤ 6 ∧ ∀ v ∈ quoteUnit u, v < 0x80) := by
  unfold quoteUnit
  cases hshort : shortEscape? u with
  | some letter =>
      refine Or.inr ⟨by simp, fun v hv => ?_⟩
      unfold shortEscape? at hshort
      simp only [List.mem_cons, List.not_mem_nil, or_false] at hv
      rcases hv with rfl | rfl
      · decide
      · split_ifs at hshort <;> cases hshort <;> decide
  | none =>
      simp only
      split_ifs with hescape
      · have hdigit : ∀ d, d < 16 → hexDigit d < 0x80 := fun d hd => by
          interval_cases d <;> decide
        have hlt : u.toNat < 65536 := u.toNat_lt
        refine Or.inr ⟨by simp [unicodeEscape], fun v hv => ?_⟩
        simp only [unicodeEscape, List.mem_cons, List.not_mem_nil, or_false] at hv
        rcases hv with rfl | rfl | rfl | rfl | rfl | rfl
        · decide
        · decide
        all_goals exact hdigit _ (by omega)
      · simp only [Bool.or_eq_true, not_or, Bool.not_eq_true] at hescape
        exact Or.inl ⟨hescape.1.2, hescape.2, rfl⟩

theorem isText_quoteUnit (u : UInt16) : IsText (quoteUnit u) := by
  rcases quoteUnit_cases u with ⟨hlead, htrail, hunit⟩ | ⟨-, hascii⟩
  · rw [hunit]
    exact isText_unit hlead htrail
  · exact isText_ascii hascii

private theorem isText_quoteUnits (s : JsString) : IsText (quoteUnits s) := by
  induction s using quoteUnits.induct with
  | case1 => exact ⟨[], rfl⟩
  | case2 u => exact isText_quoteUnit u
  | case3 u v rest hpair ih =>
      rw [Bool.and_eq_true] at hpair
      have happend := (isText_pair hpair.1 hpair.2).append ih
      simpa [quoteUnits, hpair] using happend
  | case4 u v rest hpair ih =>
      have happend := (isText_quoteUnit u).append ih
      simpa only [quoteUnits, hpair, Bool.false_eq_true, if_false] using happend

theorem isText_quote (s : JsString) : IsText (quote s) :=
  (IsText.append (isText_js "\"") (isText_quoteUnits s)).append (isText_js "\"")

/-! ## Unpaired surrogates -/

theorem codeUnits_unpairedChar (u : UInt16) :
    codeUnits (unpairedChar u) =
      if isLeadSurrogate u || isTrailSurrogate u then [0xFFFD] else [u] := by
  rw [unpairedChar]
  split
  · decide
  · rename_i hunit
    rw [Bool.or_eq_true, not_or, Bool.not_eq_true, Bool.not_eq_true] at hunit
    exact codeUnits_ofNat hunit.1 hunit.2

theorem flatMap_toChars (text : JsString) :
    (toChars text).flatMap codeUnits = toWellFormed text := by
  induction text using toChars.induct with
  | case1 => rfl
  | case2 u =>
      rw [toChars, List.flatMap_singleton, codeUnits_unpairedChar, toWellFormed]
  | case3 u v rest hpair ih =>
      have hunits := Bool.and_eq_true_iff.mp hpair
      rw [toChars, if_pos hpair, toWellFormed, if_pos hpair, List.flatMap_cons, ih,
        codeUnits_pairedChar hunits.1 hunits.2]
      rfl
  | case4 u v rest hpair ih =>
      rw [toChars, if_neg hpair, toWellFormed, if_neg hpair, List.flatMap_cons, ih,
        codeUnits_unpairedChar]
      split <;> rfl

theorem isText_toWellFormed (text : JsString) : IsText (toWellFormed text) :=
  ⟨toChars text, (flatMap_toChars text).symm⟩

theorem IsText.toWellFormed_eq {text : JsString} (h : IsText text) : toWellFormed text = text := by
  obtain ⟨chars, rfl⟩ := h
  rw [← flatMap_toChars, toChars_flatMap]

theorem utf8_toWellFormed (text : JsString) : utf8 (toWellFormed text) = utf8 text := by
  rw [← flatMap_toChars, utf8, toChars_flatMap, utf8]

theorem utf8_eq_iff {s t : JsString} : utf8 s = utf8 t ↔ toWellFormed s = toWellFormed t := by
  constructor
  · intro h
    refine utf8_injective (isText_toWellFormed s) (isText_toWellFormed t) ?_
    rw [utf8_toWellFormed, utf8_toWellFormed, h]
  · intro h
    rw [← utf8_toWellFormed s, h, utf8_toWellFormed]

theorem toWellFormed_cons {u : UInt16} (hlead : isLeadSurrogate u = false)
    (htrail : isTrailSurrogate u = false) (text : JsString) :
    toWellFormed (u :: text) = u :: toWellFormed text := by
  cases text with
  | nil => simp [toWellFormed, hlead, htrail]
  | cons v text => simp [toWellFormed, hlead, htrail]

theorem toWellFormed_append {u : UInt16} (hlead : isLeadSurrogate u = false)
    (htrail : isTrailSurrogate u = false) (s t : JsString) :
    toWellFormed (s ++ u :: t) = toWellFormed s ++ u :: toWellFormed t := by
  induction s using toWellFormed.induct with
  | case1 => exact toWellFormed_cons hlead htrail t
  | case2 v hv => simp [toWellFormed, htrail, hv, toWellFormed_cons hlead htrail]
  | case3 v hv => simp [toWellFormed, htrail, hv, toWellFormed_cons hlead htrail]
  | case4 v w rest hpair ih =>
      rw [List.cons_append, List.cons_append, toWellFormed, if_pos hpair, ih, toWellFormed,
        if_pos hpair, List.cons_append, List.cons_append]
  | case5 v w rest hpair hunpaired ih =>
      rw [List.cons_append] at ih
      rw [List.cons_append, List.cons_append, toWellFormed, if_neg hpair, if_pos hunpaired, ih,
        toWellFormed, if_neg hpair, if_pos hunpaired, List.cons_append]
  | case6 v w rest hpair hplain ih =>
      rw [List.cons_append] at ih
      rw [List.cons_append, List.cons_append, toWellFormed, if_neg hpair, if_neg hplain, ih,
        toWellFormed, if_neg hpair, if_neg hplain, List.cons_append]

theorem mem_toWellFormed {u : UInt16} {text : JsString} (h : u ∈ toWellFormed text) :
    u = 0xFFFD ∨ u ∈ text := by
  induction text using toWellFormed.induct with
  | case1 => cases h
  | case2 v hv =>
      rw [toWellFormed, if_pos hv] at h
      exact .inl (List.mem_singleton.mp h)
  | case3 v hv =>
      rw [toWellFormed, if_neg hv] at h
      exact .inr h
  | case4 v w rest hpair ih =>
      rw [toWellFormed, if_pos hpair, List.mem_cons, List.mem_cons] at h
      rcases h with rfl | rfl | h
      · exact .inr List.mem_cons_self
      · exact .inr (List.mem_cons_of_mem _ List.mem_cons_self)
      · exact (ih h).imp_right fun hmem =>
          List.mem_cons_of_mem _ (List.mem_cons_of_mem _ hmem)
  | case5 v w rest hpair hunpaired ih =>
      rw [toWellFormed, if_neg hpair, if_pos hunpaired, List.mem_cons] at h
      rcases h with rfl | h
      · exact .inl rfl
      · exact (ih h).imp_right (List.mem_cons_of_mem _)
  | case6 v w rest hpair hplain ih =>
      rw [toWellFormed, if_neg hpair, if_neg hplain, List.mem_cons] at h
      rcases h with rfl | h
      · exact .inr List.mem_cons_self
      · exact (ih h).imp_right (List.mem_cons_of_mem _)

end X424
