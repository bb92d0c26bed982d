import Mathlib.Data.List.DropRight
import X424.Foundation.Paths

/-!
# Separated lists

A text is a list of tokens between separators.  The blanks around a token do
not belong to it and empty tokens do not count, so two texts next to each other
with a separator between them hold the tokens of both, and blanks may be added
at the ends of a text.
-/

namespace X424.Foundation

variable {α κ : Type*}

/-! ## Stripping -/

section Strip

variable (blank : α → Bool)

def strip (text : List α) : List α := ((text.dropWhile blank).reverse.dropWhile blank).reverse

variable {blank}

theorem strip_eq (text : List α) : strip blank text = (text.dropWhile blank).rdropWhile blank := rfl

theorem strip_cons {x : α} (hx : blank x = true) (text : List α) :
    strip blank (x :: text) = strip blank text := by
  rw [strip, strip, List.dropWhile_cons_of_pos hx]

theorem strip_concat {x : α} (hx : blank x = true) (text : List α) :
    strip blank (text ++ [x]) = strip blank text := by
  rw [strip_eq, strip_eq, List.dropWhile_append]
  cases hrest : text.dropWhile blank with
  | nil =>
      rw [if_pos (by rfl), List.dropWhile_cons_of_pos hx]
      rfl
  | cons y rest => rw [if_neg (by simp), List.rdropWhile_concat_pos blank _ x hx]

theorem strip_sublist (text : List α) : (strip blank text).Sublist text :=
  (List.rdropWhile_prefix blank _).sublist.trans (List.dropWhile_sublist blank)

theorem strip_eq_self {text : List α} (hhead : text.head?.all (!blank ·) = true)
    (hlast : text.getLast?.all (!blank ·) = true) : strip blank text = text := by
  have hdrop : ∀ text : List α, text.head?.all (!blank ·) = true →
      text.dropWhile blank = text := by
    intro text htext
    cases text with
    | nil => rfl
    | cons u rest =>
        rw [List.dropWhile_cons_of_neg]
        simpa using htext
  rw [strip, hdrop text hhead, hdrop _ (by rwa [List.head?_reverse]), List.reverse_reverse]

theorem strip_head (text : List α) : (strip blank text).head?.all (!blank ·) = true := by
  cases hstrip : strip blank text with
  | nil => rfl
  | cons x rest =>
      have hprefix : x :: rest <+: text.dropWhile blank :=
        hstrip ▸ List.rdropWhile_prefix blank (text.dropWhile blank)
      obtain ⟨back, hback⟩ := hprefix
      have hx := List.head?_dropWhile_not blank text
      rw [← hback] at hx
      simpa using hx

theorem strip_getLast (text : List α) : (strip blank text).getLast?.all (!blank ·) = true := by
  have hx := List.head?_dropWhile_not blank (text.dropWhile blank).reverse
  rw [strip, List.getLast?_reverse]
  cases hrest : ((text.dropWhile blank).reverse.dropWhile blank).head? with
  | none => rfl
  | some x =>
      rw [hrest] at hx
      simpa using hx

theorem strip_strip (text : List α) : strip blank (strip blank text) = strip blank text :=
  strip_eq_self (strip_head text) (strip_getLast text)

theorem strip_map {f : α → α} (hf : ∀ x, blank (f x) = blank x) (text : List α) :
    strip blank (text.map f) = (strip blank text).map f := by
  have hdrop : ∀ text : List α, (text.map f).dropWhile blank = (text.dropWhile blank).map f := by
    intro text
    rw [List.dropWhile_map]
    congr 2
    exact funext hf
  rw [strip, strip, hdrop, ← List.map_reverse, hdrop, List.map_reverse]

end Strip

/-! ## Tokens -/

section Tokens

variable [DecidableEq α] (separator : α) (blank : α → Bool)

def tokens (text : List α) : List (List α) :=
  ((text.splitOn separator).map (strip blank)).filter (!·.isEmpty)

variable {separator blank}

theorem tokens_append (front back : List α) :
    tokens separator blank (front ++ separator :: back) =
      tokens separator blank front ++ tokens separator blank back := by
  rw [tokens, List.splitOn_append_cons_self, List.map_append, List.filter_append]
  rfl

theorem tokens_of_not_mem {text : List α} (h : separator ∉ text) :
    tokens separator blank text = [strip blank text].filter (!·.isEmpty) := by
  rw [tokens, List.splitOn_eq_singleton h]
  rfl

/-- A token holds no separator and has no blanks at its ends, so it is one token. -/
theorem tokens_token {text token : List α} (h : token ∈ tokens separator blank text) :
    tokens separator blank token = [token] := by
  rw [tokens, List.mem_filter] at h
  obtain ⟨segment, hsegment, rfl⟩ := List.mem_map.mp h.1
  have hmem : separator ∉ strip blank segment := fun hmem =>
    Paths.not_mem_of_mem_splitOn hsegment ((strip_sublist segment).mem hmem)
  rw [tokens_of_not_mem hmem, strip_strip]
  exact List.filter_eq_self.mpr fun kept hkept => List.mem_singleton.mp hkept ▸ h.2

theorem splitInduction {motive : List α → Prop} (last : ∀ text, separator ∉ text → motive text)
    (first : ∀ front back, separator ∉ front → motive back → motive (front ++ separator :: back))
    (text : List α) : motive text := by
  induction hlength : text.length using Nat.strong_induction_on generalizing text with
  | _ n ih =>
      by_cases hmem : separator ∈ text
      · obtain ⟨front, back, rfl, hfront⟩ := List.eq_append_cons_of_mem hmem
        refine first front back hfront (ih back.length ?_ back rfl)
        rw [← hlength, List.length_append, List.length_cons]
        omega
      · exact last text hmem

theorem mem_of_mem_tokens {text token : List α} (h : token ∈ tokens separator blank text) {x : α}
    (hx : x ∈ token) : x ∈ text := by
  have hsegment : ∀ text : List α, separator ∉ text → token ∈ tokens separator blank text →
      x ∈ text := by
    intro text hmem h
    rw [tokens_of_not_mem hmem] at h
    have htoken := List.mem_singleton.mp (List.mem_filter.mp h).1
    exact (strip_sublist text).mem (htoken ▸ hx)
  induction text using @splitInduction _ _ separator with
  | last text hmem => exact hsegment text hmem h
  | first front back hfront ih =>
      rw [tokens_append] at h
      rcases List.mem_append.mp h with h | h
      · exact List.mem_append_left _ (hsegment front hfront h)
      · exact List.mem_append_right _ (List.mem_cons_of_mem _ (ih h))

theorem tokens_intercalate_singleton (texts : List (List α)) :
    tokens separator blank ([separator].intercalate texts) =
      texts.flatMap (tokens separator blank) := by
  induction texts with
  | nil => rfl
  | cons text texts ih =>
      cases texts with
      | nil => simp
      | cons next texts =>
          rw [List.intercalate_cons_cons, List.flatMap_cons, ← ih, List.append_assoc,
            List.singleton_append, tokens_append]

section Blank

variable {x : α} (hx : blank x = true) (hne : x ≠ separator)

include hx hne

theorem tokens_cons (text : List α) :
    tokens separator blank (x :: text) = tokens separator blank text := by
  induction text using @splitInduction _ _ separator with
  | last text hmem =>
      rw [tokens_of_not_mem hmem, tokens_of_not_mem (by simp [hmem, hne.symm]), strip_cons hx]
  | first front back hfront ih =>
      have hmem : separator ∉ x :: front := by simp [hfront, hne.symm]
      rw [← List.cons_append, tokens_append, tokens_append, tokens_of_not_mem hmem,
        tokens_of_not_mem hfront, strip_cons hx]

theorem tokens_concat (text : List α) :
    tokens separator blank (text ++ [x]) = tokens separator blank text := by
  induction text using @splitInduction _ _ separator with
  | last text hmem =>
      rw [tokens_of_not_mem hmem, tokens_of_not_mem (by simp [hmem, hne.symm]), strip_concat hx]
  | first front back hfront ih =>
      rw [List.append_assoc, List.cons_append, tokens_append, tokens_append, ih]

theorem tokens_intercalate (texts : List (List α)) :
    tokens separator blank ([separator, x].intercalate texts) =
      texts.flatMap (tokens separator blank) := by
  induction texts with
  | nil => rfl
  | cons text texts ih =>
      cases texts with
      | nil => simp
      | cons next texts =>
          rw [List.intercalate_cons_cons, List.flatMap_cons, ← ih, List.append_assoc,
            List.cons_append, tokens_append, List.cons_append, List.nil_append,
            tokens_cons hx hne]

end Blank

theorem tokens_strip (hseparator : blank separator = false) (text : List α) :
    tokens separator blank (strip blank text) = tokens separator blank text := by
  have hne : ∀ x, blank x = true → x ≠ separator := by
    rintro x hx rfl
    exact absurd (hx.symm.trans hseparator) (by decide)
  have hfront : ∀ text : List α,
      tokens separator blank (text.dropWhile blank) = tokens separator blank text := by
    intro text
    induction text with
    | nil => rfl
    | cons x text ih =>
        cases hx : blank x with
        | true => rw [List.dropWhile_cons_of_pos hx, ih, tokens_cons hx (hne x hx)]
        | false => rw [List.dropWhile_cons_of_neg (by simp [hx])]
  have hback : ∀ text : List α,
      tokens separator blank (text.rdropWhile blank) = tokens separator blank text := by
    intro text
    induction text using List.reverseRecOn with
    | nil => rfl
    | append_singleton text x ih =>
        cases hx : blank x with
        | true =>
            rw [List.rdropWhile_concat_pos blank _ x hx, ih, tokens_concat hx (hne x hx)]
        | false => rw [List.rdropWhile_concat_neg blank _ x (by simp [hx])]
  rw [strip_eq, hback, hfront]

theorem tokens_map {f : α → α} (hblank : ∀ x, blank (f x) = blank x)
    (hseparator : ∀ x, f x = separator ↔ x = separator) (text : List α) :
    tokens separator blank (text.map f) = (tokens separator blank text).map (List.map f) := by
  have hmem : ∀ text : List α, separator ∉ text → separator ∉ text.map f := by
    intro text hnot h
    obtain ⟨x, hx, heq⟩ := List.mem_map.mp h
    exact hnot ((hseparator x).mp heq ▸ hx)
  have hsegment : ∀ text : List α, separator ∉ text →
      tokens separator blank (text.map f) = (tokens separator blank text).map (List.map f) := by
    intro text hnot
    rw [tokens_of_not_mem (hmem text hnot), tokens_of_not_mem hnot, strip_map hblank]
    cases strip blank text with
    | nil => rfl
    | cons x rest => rfl
  induction text using @splitInduction _ _ separator with
  | last text hnot => exact hsegment text hnot
  | first front back hfront ih =>
      rw [List.map_append, List.map_cons, (hseparator separator).mpr rfl, tokens_append,
        tokens_append, ih, hsegment front hfront, List.map_append]

end Tokens

/-! ## Printed lists -/

section Intercalate

variable {printed : List α}

theorem mem_intercalate {texts : List (List α)} {x : α} (h : x ∈ printed.intercalate texts) :
    x ∈ printed ∨ ∃ text ∈ texts, x ∈ text := by
  induction texts with
  | nil => cases h
  | cons text texts ih =>
      cases texts with
      | nil => exact Or.inr ⟨text, List.mem_cons_self, by simpa using h⟩
      | cons next texts =>
          rw [List.intercalate_cons_cons, List.append_assoc, List.mem_append,
            List.mem_append] at h
          rcases h with hmem | hmem | hmem
          · exact Or.inr ⟨text, List.mem_cons_self, hmem⟩
          · exact Or.inl hmem
          · rcases ih hmem with hprinted | ⟨other, hother, hmem⟩
            · exact Or.inl hprinted
            · exact Or.inr ⟨other, List.mem_cons_of_mem _ hother, hmem⟩

theorem intercalate_ne_nil {text : List α} {texts : List (List α)} (h : text ≠ []) :
    printed.intercalate (text :: texts) ≠ [] := by
  cases texts with
  | nil => simpa using h
  | cons next texts =>
      rw [List.intercalate_cons_cons, List.append_assoc]
      exact List.append_ne_nil_of_left_ne_nil h _

/-- A printed list begins and ends as its texts do, so there is nothing to strip. -/
theorem strip_intercalate {blank : α → Bool} {texts : List (List α)}
    (h : ∀ text ∈ texts, text ≠ [] ∧ strip blank text = text) :
    strip blank (printed.intercalate texts) = printed.intercalate texts := by
  cases texts with
  | nil => rfl
  | cons first texts =>
      apply strip_eq_self
      · obtain ⟨hne, hfirst⟩ := h first List.mem_cons_self
        have hhead : (printed.intercalate (first :: texts)).head? = first.head? := by
          cases texts with
          | nil => simp
          | cons next texts =>
              rw [List.intercalate_cons_cons, List.append_assoc, List.head?_append_of_ne_nil _ hne]
        rw [hhead, ← hfirst]
        exact strip_head first
      · induction texts generalizing first with
        | nil =>
            obtain ⟨_, hfirst⟩ := h first List.mem_cons_self
            rw [List.intercalate_singleton, ← hfirst]
            exact strip_getLast first
        | cons next texts ih =>
            have hrest := ih next fun text htext => h text (List.mem_cons_of_mem _ htext)
            have hne := @intercalate_ne_nil _ printed _ texts
              (h next (List.mem_cons_of_mem _ List.mem_cons_self)).1
            rw [List.intercalate_cons_cons, List.getLast?_append_of_ne_nil _ hne]
            exact hrest

end Intercalate

/-! ## Duplicates -/

section Distinct

variable [DecidableEq κ] (key : α → κ)

def distinctBy (seen : List κ) : List α → List α
  | [] => []
  | item :: items =>
      if key item ∈ seen then distinctBy seen items
      else item :: distinctBy (key item :: seen) items

theorem mem_of_mem_distinctBy {seen : List κ} {items : List α} {item : α}
    (h : item ∈ distinctBy key seen items) : item ∈ items := by
  induction items generalizing seen with
  | nil => cases h
  | cons first items ih =>
      rw [distinctBy] at h
      split_ifs at h
      · exact List.mem_cons_of_mem _ (ih h)
      · rcases List.mem_cons.mp h with rfl | h
        · exact List.mem_cons_self
        · exact List.mem_cons_of_mem _ (ih h)

theorem distinctBy_keeps {seen : List κ} {items : List α} {item : α} (h : item ∈ items) :
    key item ∈ seen ∨ ∃ kept ∈ distinctBy key seen items, key kept = key item := by
  induction items generalizing seen with
  | nil => cases h
  | cons first items ih =>
      rw [distinctBy]
      split_ifs with hseen
      · rcases List.mem_cons.mp h with rfl | h
        · exact Or.inl hseen
        · exact ih h
      · rcases List.mem_cons.mp h with rfl | h
        · exact Or.inr ⟨_, List.mem_cons_self, rfl⟩
        · rcases @ih (key first :: seen) h with hkey | ⟨kept, hkept, hkey⟩
          · rcases List.mem_cons.mp hkey with heq | hkey
            · exact Or.inr ⟨first, List.mem_cons_self, heq.symm⟩
            · exact Or.inl hkey
          · exact Or.inr ⟨kept, List.mem_cons_of_mem _ hkept, hkey⟩

end Distinct

end X424.Foundation
