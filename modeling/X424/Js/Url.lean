import X424.Js.Text

/-!
# URLs

The WHATWG parser is not part of the program.  It is a parameter, with the few
facts about it that the program relies on.
-/

namespace X424

/-- What `new URL(text)` gives. -/
structure WebUrl where
  href : JsString
  origin : JsString
  protocol : JsString
  username : JsString
  password : JsString
  pathname : JsString
  search : JsString
  hash : JsString
  deriving DecidableEq, Repr

def isPrintable (u : UInt16) : Bool := 0x20 ≤ u && u ≤ 0x7E

structure UrlParser where
  /-- `new URL(text)`, unless it throws. -/
  parse : JsString → Option WebUrl
  /-- What `new Request` makes of a `referrer`, unless it throws. -/
  referrer : JsString → Option JsString
  href_printable : ∀ {text url}, parse text = some url → ∀ u ∈ url.href, isPrintable u = true
  pathname_https : ∀ {text url}, parse text = some url → url.protocol = js "https:" →
    url.pathname.head? = some 0x2F

/-- A letter, a digit, or one of `+-.` -/
def isSchemeUnit (u : UInt16) : Bool :=
  isAsciiLower u || (0x41 ≤ u && u ≤ 0x5A) || (0x30 ≤ u && u ≤ 0x39) || u == 0x2B || u == 0x2D ||
    u == 0x2E

/-- How a text begins that `new URL` takes without a base: blanks and controls, and then a
scheme, in which tabs and line breaks are ignored. -/
def HasScheme (text : JsString) : Prop :=
  ∃ leading scheme rest, text = leading ++ scheme ++ 0x3A :: rest ∧ (∀ u ∈ leading, u ≤ 0x20) ∧
    ∀ u ∈ scheme, isSchemeUnit u = true ∨ u = 0x09 ∨ u = 0x0A ∨ u = 0x0D

end X424
