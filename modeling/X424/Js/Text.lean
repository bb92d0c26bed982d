import Mathlib.Data.List.Infix
import X424.Foundation.Expiring

/-!
# JavaScript values that the program computes with

A JavaScript string is a sequence of UTF-16 code units, so `length` counts
code units and any sequence is a string, paired surrogates or not.  A
timestamp argument is a string too; the program only ever applies `Date.parse`
to it, and it is represented here by what `Date.parse` returns.
-/

namespace X424

open Foundation

abbrev JsString := List UInt16

instance : LawfulBEq JsString := inferInstance

def codeUnits (c : Char) : JsString :=
  if c.toNat < 0x10000 then [UInt16.ofNat c.toNat]
  else
    [UInt16.ofNat (0xD800 + (c.toNat - 0x10000) / 0x400),
     UInt16.ofNat (0xDC00 + (c.toNat - 0x10000) % 0x400)]

def js (literal : String) : JsString := literal.toList.flatMap codeUnits

/-- A thrown `Error`, known by its message. -/
structure JsError where
  message : JsString
  deriving DecidableEq, Repr

theorem bind_eq_ok {ε α β : Type} {x : Except ε α} {f : α → Except ε β} {b : β} :
    (x >>= f) = .ok b ↔ ∃ a, x = .ok a ∧ f a = .ok b := by
  cases x with
  | error e => exact ⟨nofun, nofun⟩
  | ok a => exact ⟨fun h => ⟨a, rfl, h⟩, fun ⟨_, ha, h⟩ => Except.ok.inj ha ▸ h⟩

theorem forM_eq_ok {ε α : Type} {items : List α} {check : α → Except ε Unit} :
    items.forM check = .ok () ↔ ∀ item ∈ items, check item = .ok () := by
  induction items with
  | nil => exact ⟨fun _ => List.forall_mem_nil _, fun _ => rfl⟩
  | cons item items ih =>
      rw [List.forall_mem_cons, ← ih]
      refine (bind_eq_ok (x := check item)).trans ?_
      constructor
      · rintro ⟨_, hitem, hitems⟩
        exact ⟨hitem, hitems⟩
      · rintro ⟨hitem, hitems⟩
        exact ⟨(), hitem, hitems⟩

/-- A timestamp argument; `none` is a text for which `Date.parse` gives `NaN`. -/
abbrev IsoTimestamp := Option Instant

/--
`Date.parse(a) <= b`.  Every comparison with `NaN` is false, so an unreadable
timestamp is not in the past.
-/
def parsedLe (a : IsoTimestamp) (b : Instant) : Bool :=
  match a with
  | none => false
  | some ms => decide (ms ≤ b)

def isLeadSurrogate (u : UInt16) : Bool := 0xD800 ≤ u && u ≤ 0xDBFF

def isTrailSurrogate (u : UInt16) : Bool := 0xDC00 ≤ u && u ≤ 0xDFFF

/-- Unpaired surrogates become `U+FFFD`, as in every conversion to UTF-8. -/
def toWellFormed : JsString → JsString
  | [] => []
  | [u] => if isLeadSurrogate u || isTrailSurrogate u then [0xFFFD] else [u]
  | u :: v :: rest =>
      if isLeadSurrogate u && isTrailSurrogate v then u :: v :: toWellFormed rest
      else if isLeadSurrogate u || isTrailSurrogate u then
        0xFFFD :: toWellFormed (v :: rest)
      else u :: toWellFormed (v :: rest)

def isAsciiLower (u : UInt16) : Bool := 0x61 ≤ u && u ≤ 0x7A

/-- `toUpperCase` on the ASCII letters; HTTP methods are ASCII tokens. -/
def toUpperCase (s : JsString) : JsString :=
  s.map fun u => if isAsciiLower u then u - 0x20 else u

/-- The ASCII letters in lower case; a regular expression with the flag `i` identifies no others. -/
def asciiLower (text : JsString) : JsString :=
  text.map fun u => if 0x41 ≤ u && u ≤ 0x5A then u + 0x20 else u

/--
`toLowerCase` as far as a comparison with a text in Latin-1 can tell: apart from
that alphabet's own capitals only four letters have their lower case in it.
-/
def toLowerCase (text : JsString) : JsString :=
  text.map fun u =>
    if (0x41 ≤ u && u ≤ 0x5A) || (0xC0 ≤ u && u ≤ 0xDE && u != 0xD7) then u + 0x20
    else if u == 0x178 then 0xFF
    else if u == 0x1E9E then 0xDF
    else if u == 0x212A then 0x6B
    else if u == 0x212B then 0xE5
    else u

/-- The white space and the line terminators that `String.prototype.trim` removes,
which are `\s` of a regular expression. -/
def isTrimmed (u : UInt16) : Bool :=
  (0x09 ≤ u && u ≤ 0x0D) || u == 0x20 || u == 0xA0 || u == 0x1680 ||
    (0x2000 ≤ u && u ≤ 0x200A) || u == 0x2028 || u == 0x2029 || u == 0x202F || u == 0x205F ||
    u == 0x3000 || u == 0xFEFF

def trim (text : JsString) : JsString :=
  ((text.dropWhile isTrimmed).reverse.dropWhile isTrimmed).reverse

/-- `text.includes(part)`. -/
def includes (text part : JsString) : Bool := decide (part <:+: text)

def isBase64UrlUnit (u : UInt16) : Bool :=
  (0x41 ≤ u && u ≤ 0x5A) || (0x61 ≤ u && u ≤ 0x7A) || (0x30 ≤ u && u ≤ 0x39) ||
    u == 0x5F || u == 0x2D

/-- `/^sha256:[A-Za-z0-9_-]{43}$/u`. -/
def isSha256Digest (s : JsString) : Bool :=
  s.take 7 == js "sha256:" && s.length == 50 && (s.drop 7).all isBase64UrlUnit

example : isSha256Digest (js "sha256:47DEQpj8HBSa-_TImW-5JCeuQeRkm5NMpJWZG3hSuFU") := by
  decide

end X424
