import Mathlib.Data.Fin.Basic
import Mathlib.Tactic.IntervalCases
import X424.Js.Text

/-!
# JSON string literals

`quote` is `JSON.stringify` on a string, including the escapes of control
characters and of unpaired surrogates.  `scanString` reads a literal back, so
a quoted string can be told apart from whatever follows it: that is why two
canonical JSON texts are equal only when the values are.
-/

namespace X424

def quoteMark : UInt16 := 0x22

def backslash : UInt16 := 0x5C

def hexDigit (d : Nat) : UInt16 :=
  if d < 10 then UInt16.ofNat (0x30 + d) else UInt16.ofNat (0x57 + d)

def hexValue? (u : UInt16) : Option Nat :=
  if 0x30 ≤ u && u ≤ 0x39 then some (u.toNat - 0x30)
  else if 0x61 ≤ u && u ≤ 0x66 then some (u.toNat - 0x57)
  else if 0x41 ≤ u && u ≤ 0x46 then some (u.toNat - 0x37)
  else none

def unicodeEscape (u : UInt16) : JsString :=
  [backslash, 0x75, hexDigit (u.toNat / 4096), hexDigit (u.toNat / 256 % 16),
    hexDigit (u.toNat / 16 % 16), hexDigit (u.toNat % 16)]

/-- The two-unit escapes of `JSON.stringify`, by the letter after the backslash. -/
def shortEscape? (u : UInt16) : Option UInt16 :=
  if u = 0x08 then some 0x62
  else if u = 0x09 then some 0x74
  else if u = 0x0A then some 0x6E
  else if u = 0x0C then some 0x66
  else if u = 0x0D then some 0x72
  else if u = quoteMark then some quoteMark
  else if u = backslash then some backslash
  else none

def quoteUnit (u : UInt16) : JsString :=
  match shortEscape? u with
  | some letter => [backslash, letter]
  | none =>
      if u < 0x20 || isLeadSurrogate u || isTrailSurrogate u then unicodeEscape u
      else [u]

def quoteUnits : JsString → JsString
  | [] => []
  | [u] => quoteUnit u
  | u :: v :: rest =>
      if isLeadSurrogate u && isTrailSurrogate v then u :: v :: quoteUnits rest
      else quoteUnit u ++ quoteUnits (v :: rest)

/-- `JSON.stringify` of a string. -/
def quote (s : JsString) : JsString := quoteMark :: (quoteUnits s ++ [quoteMark])

def unescapeLetter? (letter : UInt16) : Option UInt16 :=
  if letter = 0x62 then some 0x08
  else if letter = 0x74 then some 0x09
  else if letter = 0x6E then some 0x0A
  else if letter = 0x66 then some 0x0C
  else if letter = 0x72 then some 0x0D
  else if letter = quoteMark then some quoteMark
  else if letter = backslash then some backslash
  else if letter = 0x2F then some 0x2F
  else none

def hexUnit? (a b c d : UInt16) : Option UInt16 := do
  let a ← hexValue? a
  let b ← hexValue? b
  let c ← hexValue? c
  let d ← hexValue? d
  some (UInt16.ofNat (((a * 16 + b) * 16 + c) * 16 + d))

/-- Read a string literal after its opening quote; the second part is what follows it. -/
def scanString : JsString → Option (JsString × JsString)
  | [] => none
  | u :: rest =>
      if u = quoteMark then some ([], rest)
      else if u = backslash then
        match rest with
        | letter :: rest =>
            if letter = 0x75 then
              match rest with
              | a :: b :: c :: d :: rest => do
                  let unit ← hexUnit? a b c d
                  let (content, rest) ← scanString rest
                  some (unit :: content, rest)
              | _ => none
            else do
              let unit ← unescapeLetter? letter
              let (content, rest) ← scanString rest
              some (unit :: content, rest)
        | [] => none
      else if u < 0x20 then none
      else do
        let (content, rest) ← scanString rest
        some (u :: content, rest)

private theorem hexValue?_hexDigit (d : Nat) (h : d < 16) :
    hexValue? (hexDigit d) = some d := by
  interval_cases d <;> decide

private theorem hexUnit?_digits (u : UInt16) :
    hexUnit? (hexDigit (u.toNat / 4096)) (hexDigit (u.toNat / 256 % 16))
      (hexDigit (u.toNat / 16 % 16)) (hexDigit (u.toNat % 16)) = some u := by
  have hlt : u.toNat < 65536 := u.toNat_lt
  unfold hexUnit?
  rw [hexValue?_hexDigit _ (by omega), hexValue?_hexDigit _ (by omega),
    hexValue?_hexDigit _ (by omega), hexValue?_hexDigit _ (by omega)]
  have hvalue : ((u.toNat / 4096 * 16 + u.toNat / 256 % 16) * 16 + u.toNat / 16 % 16) * 16 +
      u.toNat % 16 = u.toNat := by omega
  change some (UInt16.ofNat _) = some u
  rw [hvalue, UInt16.ofNat_toNat]

private theorem unescapeLetter?_of_shortEscape {u letter : UInt16}
    (h : shortEscape? u = some letter) :
    unescapeLetter? letter = some u ∧ letter ≠ 0x75 := by
  unfold shortEscape? at h
  split_ifs at h with h₁ h₂ h₃ h₄ h₅ h₆ h₇ <;> cases h <;> subst_vars <;> decide

@[simp] private theorem scanString_close (rest : JsString) :
    scanString (quoteMark :: rest) = some ([], rest) := by
  rw [scanString.eq_def]
  simp

private theorem scanString_letter {letter : UInt16} (rest : JsString) (h : letter ≠ 0x75) :
    scanString (backslash :: letter :: rest) =
      (unescapeLetter? letter).bind fun unit =>
        (scanString rest).map fun p => (unit :: p.1, p.2) := by
  rw [scanString.eq_def]
  simp only [if_neg (show ¬ backslash = quoteMark by decide), if_true, if_neg h]
  cases unescapeLetter? letter <;> cases scanString rest <;> rfl

private theorem scanString_unicode (a b c d : UInt16) (rest : JsString) :
    scanString (backslash :: 0x75 :: a :: b :: c :: d :: rest) =
      (hexUnit? a b c d).bind fun unit =>
        (scanString rest).map fun p => (unit :: p.1, p.2) := by
  rw [scanString.eq_def]
  simp only [if_neg (show ¬ backslash = quoteMark by decide), if_true]
  cases hexUnit? a b c d <;> cases scanString rest <;> rfl

private theorem scanString_plain {u : UInt16} {rest : JsString}
    (hquote : u ≠ quoteMark) (hslash : u ≠ backslash) (hprint : ¬ u < 0x20) :
    scanString (u :: rest) = (scanString rest).map fun p => (u :: p.1, p.2) := by
  rw [scanString.eq_def]
  simp only [if_neg hquote, if_neg hslash, if_neg hprint]
  cases scanString rest <;> rfl

private theorem scanString_quoteUnit (u : UInt16) (rest : JsString) :
    scanString (quoteUnit u ++ rest) =
      (scanString rest).map fun p => (u :: p.1, p.2) := by
  unfold quoteUnit
  cases hshort : shortEscape? u with
  | some letter =>
      obtain ⟨hletter, hne⟩ := unescapeLetter?_of_shortEscape hshort
      simp only [List.cons_append, List.nil_append, scanString_letter rest hne, hletter,
        Option.bind_some]
  | none =>
      by_cases hescape : u < 0x20 || isLeadSurrogate u || isTrailSurrogate u
      · simp only [hescape, if_true, unicodeEscape, List.cons_append, List.nil_append,
          scanString_unicode, hexUnit?_digits, Option.bind_some]
      · simp only [hescape, Bool.false_eq_true, if_false, List.cons_append, List.nil_append]
        simp only [Bool.or_eq_true, decide_eq_true_eq, not_or] at hescape
        refine scanString_plain ?_ ?_ hescape.1.1
        · rintro rfl
          revert hshort
          decide
        · rintro rfl
          revert hshort
          decide

private theorem surrogate_plain {u : UInt16}
    (h : isLeadSurrogate u = true ∨ isTrailSurrogate u = true) :
    u ≠ quoteMark ∧ u ≠ backslash ∧ ¬ u < 0x20 := by
  have hge : 0xD800 ≤ u.toNat := by
    simp only [isLeadSurrogate, isTrailSurrogate, Bool.and_eq_true, decide_eq_true_eq,
      UInt16.le_iff_toNat_le, UInt16.reduceToNat] at h
    omega
  refine ⟨?_, ?_, ?_⟩
  · rintro rfl
    revert hge
    decide
  · rintro rfl
    revert hge
    decide
  · simp only [UInt16.lt_iff_toNat_lt, UInt16.reduceToNat]
    omega

theorem scanString_quoteUnits (s rest : JsString) :
    scanString (quoteUnits s ++ quoteMark :: rest) = some (s, rest) := by
  induction s using quoteUnits.induct with
  | case1 => simp [quoteUnits]
  | case2 u =>
      rw [quoteUnits, scanString_quoteUnit]
      simp
  | case3 u v tail hpair ih =>
      rw [Bool.and_eq_true] at hpair
      obtain ⟨hu₁, hu₂, hu₃⟩ := surrogate_plain (Or.inl hpair.1)
      obtain ⟨hv₁, hv₂, hv₃⟩ := surrogate_plain (Or.inr hpair.2)
      simp only [quoteUnits, hpair.1, hpair.2, Bool.and_self, if_true, List.cons_append]
      rw [scanString_plain hu₁ hu₂ hu₃, scanString_plain hv₁ hv₂ hv₃, ih]
      rfl
  | case4 u v tail hpair ih =>
      simp only [quoteUnits, hpair, if_false, List.append_assoc, Bool.false_eq_true]
      rw [scanString_quoteUnit, ih]
      rfl

theorem quote_append_inj {s t x y : JsString} (h : quote s ++ x = quote t ++ y) :
    s = t ∧ x = y := by
  simp only [quote, List.cons_append, List.append_assoc, List.nil_append,
    List.cons.injEq, true_and] at h
  have hscan := congrArg scanString h
  rw [scanString_quoteUnits, scanString_quoteUnits, Option.some.injEq, Prod.mk.injEq] at hscan
  exact hscan

example : quote (js "a\"\n") = js "\"a\\\"\\n\"" := by decide

end X424
