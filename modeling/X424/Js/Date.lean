import Mathlib.Algebra.Group.Nat.Defs
import X424.Js.Text

/-!
# Dates and their texts

`new Date(ms).toISOString()` as ECMAScript defines it.  What `Date.parse` does
with other texts is left to the implementation, and so is a parameter.
-/

namespace X424

open Foundation

/-! ## The calendar -/

def dayFromYear (y : Int) : Int :=
  365 * (y - 1970) + (y - 1969) / 4 - (y - 1901) / 100 + (y - 1601) / 400

def yearFromDay (day : Int) : Int :=
  let guess := 1970 + day * 400 / 146097
  if day < dayFromYear guess then guess - 1
  else if dayFromYear (guess + 1) ≤ day then guess + 1
  else guess

def inLeapYear (y : Int) : Int := dayFromYear (y + 1) - dayFromYear y - 365

/-- The days of the year before a month; `leap` is 1 in a leap year. -/
def monthStart (leap : Int) : Nat → Int
  | 0 => 0
  | 1 => 31
  | 2 => 59 + leap
  | 3 => 90 + leap
  | 4 => 120 + leap
  | 5 => 151 + leap
  | 6 => 181 + leap
  | 7 => 212 + leap
  | 8 => 243 + leap
  | 9 => 273 + leap
  | 10 => 304 + leap
  | _ => 334 + leap

def monthFromDayInYear (leap day : Int) : Nat :=
  if day < 31 then 0
  else if day < 59 + leap then 1
  else if day < 90 + leap then 2
  else if day < 120 + leap then 3
  else if day < 151 + leap then 4
  else if day < 181 + leap then 5
  else if day < 212 + leap then 6
  else if day < 243 + leap then 7
  else if day < 273 + leap then 8
  else if day < 304 + leap then 9
  else if day < 334 + leap then 10
  else 11

theorem yearFromDay_spec (day : Int) :
    dayFromYear (yearFromDay day) ≤ day ∧ day < dayFromYear (yearFromDay day + 1) := by
  unfold yearFromDay
  simp only
  split_ifs with hbefore hafter
  · rw [Int.sub_add_cancel]
    refine ⟨?_, hbefore⟩
    unfold dayFromYear
    omega
  · refine ⟨hafter, ?_⟩
    unfold dayFromYear
    omega
  · exact ⟨Int.not_lt.mp hbefore, Int.not_le.mp hafter⟩

theorem dayInYear_bounds (day : Int) :
    0 ≤ day - dayFromYear (yearFromDay day) ∧ day - dayFromYear (yearFromDay day) < 368 ∧
      -1 ≤ inLeapYear (yearFromDay day) ∧ inLeapYear (yearFromDay day) ≤ 2 := by
  obtain ⟨hfrom, hto⟩ := yearFromDay_spec day
  have hleap : -1 ≤ inLeapYear (yearFromDay day) ∧ inLeapYear (yearFromDay day) ≤ 2 := by
    unfold inLeapYear dayFromYear
    omega
  refine ⟨by omega, ?_, hleap⟩
  unfold inLeapYear at hleap
  omega

theorem dayInMonth_bounds {leap day : Int} (hday : 0 ≤ day ∧ day < 368)
    (hleap : -1 ≤ leap ∧ leap ≤ 2) :
    0 ≤ day - monthStart leap (monthFromDayInYear leap day) ∧
      day - monthStart leap (monthFromDayInYear leap day) < 36 ∧
      monthFromDayInYear leap day < 12 := by
  fun_cases monthFromDayInYear leap day <;> simp only [monthStart] <;> omega

/-! ## Texts -/

def digits : Nat → Nat → JsString
  | 0, _ => []
  | width + 1, n => UInt16.ofNat (0x30 + n / 10 ^ width % 10) :: digits width n

def yearText (year : Int) : JsString :=
  if 0 ≤ year ∧ year ≤ 9999 then digits 4 year.toNat
  else (if year < 0 then 0x2D else 0x2B) :: digits 6 year.natAbs

/-- The largest and, negated, the smallest time that a `Date` can hold. -/
def maximumTime : Int := 8640000000000000

def IsDate (ms : Int) : Prop := -maximumTime ≤ ms ∧ ms ≤ maximumTime

instance (ms : Int) : Decidable (IsDate ms) := inferInstanceAs (Decidable (_ ∧ _))

/-- `YYYY-MM-DDTHH:mm:ss.sssZ`. -/
def datePartsText (year : Int) (month date hour minute second millisecond : Nat) : JsString :=
  yearText year ++ 0x2D :: (digits 2 month ++ 0x2D :: (digits 2 date ++
    0x54 :: (digits 2 hour ++ 0x3A :: (digits 2 minute ++ 0x3A :: (digits 2 second ++
    0x2E :: (digits 3 millisecond ++ [0x5A]))))))

/-- The text of `new Date(ms).toISOString()`. -/
def dateText (ms : Int) : JsString :=
  let day := ms / 86400000
  let time := (ms % 86400000).toNat
  let year := yearFromDay day
  let dayInYear := day - dayFromYear year
  let month := monthFromDayInYear (inLeapYear year) dayInYear
  datePartsText year (month + 1) (dayInYear - monthStart (inLeapYear year) month + 1).toNat
    (time / 3600000) (time / 60000 % 60) (time / 1000 % 60) (time % 1000)

example : dateText 1500 = js "1970-01-01T00:00:01.500Z" := by decide

example : dateText 1709210096789 = js "2024-02-29T12:34:56.789Z" := by decide

def InFourDigitYear (ms : Int) : Prop := -62167219200000 ≤ ms ∧ ms < 253402300800000

instance (ms : Int) : Decidable (InFourDigitYear ms) := inferInstanceAs (Decidable (_ ∧ _))

/-! ## Reading the texts back -/

def readDigits : Nat → Nat → JsString → Option (Nat × JsString)
  | 0, value, text => some (value, text)
  | _ + 1, _, [] => none
  | width + 1, value, u :: text =>
      if 0x30 ≤ u && u ≤ 0x39 then readDigits width (value * 10 + (u.toNat - 0x30)) text
      else none

def expectUnit (u : UInt16) : JsString → Option JsString
  | [] => none
  | v :: text => if v = u then some text else none

def readYear : JsString → Option (Int × JsString)
  | [] => none
  | u :: text =>
      if u = 0x2B then (readDigits 6 0 text).map fun p => ((p.1 : Int), p.2)
      else if u = 0x2D then (readDigits 6 0 text).map fun p => (-(p.1 : Int), p.2)
      else (readDigits 4 0 (u :: text)).map fun p => ((p.1 : Int), p.2)

def readDateParts (text : JsString) : Option Int := do
  let (year, rest) ← readYear text
  let rest ← expectUnit 0x2D rest
  let (month, rest) ← readDigits 2 0 rest
  let rest ← expectUnit 0x2D rest
  let (date, rest) ← readDigits 2 0 rest
  let rest ← expectUnit 0x54 rest
  let (hour, rest) ← readDigits 2 0 rest
  let rest ← expectUnit 0x3A rest
  let (minute, rest) ← readDigits 2 0 rest
  let rest ← expectUnit 0x3A rest
  let (second, rest) ← readDigits 2 0 rest
  let rest ← expectUnit 0x2E rest
  let (millisecond, rest) ← readDigits 3 0 rest
  let _ ← expectUnit 0x5A rest
  let day := dayFromYear year + monthStart (inLeapYear year) (month - 1) + date - 1
  some (day * 86400000 + hour * 3600000 + minute * 60000 + second * 1000 + millisecond)

def parseDateText (text : JsString) : IsoTimestamp :=
  (readDateParts text).filter fun ms => decide (IsDate ms) && dateText ms == text

theorem readDigits_digits (width n value : Nat) (rest : JsString) :
    readDigits width value (digits width n ++ rest) =
      some (value * 10 ^ width + n % 10 ^ width, rest) := by
  induction width generalizing value with
  | zero => simp [readDigits, digits, Nat.mod_one]
  | succ width ih =>
      have hdigit : n / 10 ^ width % 10 < 10 := Nat.mod_lt _ (by decide)
      have hunit : (0x30 ≤ UInt16.ofNat (0x30 + n / 10 ^ width % 10) &&
          UInt16.ofNat (0x30 + n / 10 ^ width % 10) ≤ 0x39) = true := by
        simp only [Bool.and_eq_true, decide_eq_true_eq, UInt16.le_iff_toNat_le,
          UInt16.toNat_ofNat', UInt16.reduceToNat]
        omega
      have hvalue : (UInt16.ofNat (0x30 + n / 10 ^ width % 10)).toNat - 0x30 =
          n / 10 ^ width % 10 := by
        rw [UInt16.toNat_ofNat']
        omega
      simp only [digits, List.cons_append, readDigits, hunit, if_true, ih, hvalue,
        Option.some.injEq, Prod.mk.injEq, and_true]
      rw [Nat.pow_succ, Nat.mod_mul, Nat.add_mul, Nat.mul_assoc, Nat.mul_comm 10,
        Nat.mul_comm (n / 10 ^ width % 10)]
      omega

theorem readDigits_digits_of_lt {width n : Nat} (h : n < 10 ^ width) (rest : JsString) :
    readDigits width 0 (digits width n ++ rest) = some (n, rest) := by
  rw [readDigits_digits, Nat.zero_mul, Nat.zero_add, Nat.mod_eq_of_lt h]

theorem expectUnit_cons (u : UInt16) (rest : JsString) : expectUnit u (u :: rest) = some rest :=
  if_pos rfl

theorem readYear_yearText {year : Int} (h : year.natAbs < 10 ^ 6) (rest : JsString) :
    readYear (yearText year ++ rest) = some (year, rest) := by
  unfold yearText
  split_ifs with hfour hneg
  · have hread := @readDigits_digits_of_lt 4 year.toNat (by omega) rest
    have hyear : ((year.toNat : Nat) : Int) = year := Int.toNat_of_nonneg hfour.1
    have hlead : year.toNat / 10 ^ 3 % 10 < 10 := Nat.mod_lt _ (by decide)
    have hunit : ∀ d, d < 10 → UInt16.ofNat (0x30 + d) ≠ 0x2B ∧ UInt16.ofNat (0x30 + d) ≠ 0x2D := by
      decide
    obtain ⟨hplus, hminus⟩ := hunit _ hlead
    rw [show digits 4 year.toNat = UInt16.ofNat (0x30 + year.toNat / 10 ^ 3 % 10) ::
      digits 3 year.toNat from rfl] at hread ⊢
    simp only [List.cons_append] at hread ⊢
    simp only [readYear, if_neg hplus, if_neg hminus, hread, Option.map_some, hyear]
  · have hread := @readDigits_digits_of_lt 6 year.natAbs h rest
    have hyear : -((year.natAbs : Nat) : Int) = year := by omega
    have hsign : (0x2D : UInt16) ≠ 0x2B := by decide
    simp only [List.cons_append, readYear, if_neg hsign, if_true, hread, Option.map_some, hyear]
  · have hread := @readDigits_digits_of_lt 6 year.natAbs h rest
    have hyear : ((year.natAbs : Nat) : Int) = year := by omega
    simp only [List.cons_append, readYear, if_true, hread, Option.map_some, hyear]

theorem year_bounds {ms : Int} (h : IsDate ms) :
    (yearFromDay (ms / 86400000)).natAbs < 10 ^ 6 := by
  obtain ⟨hfrom, hto⟩ := yearFromDay_spec (ms / 86400000)
  obtain ⟨hmin, hmax⟩ := h
  unfold maximumTime at hmin hmax
  have hday : -100000000 ≤ ms / 86400000 ∧ ms / 86400000 ≤ 100000000 := by
    constructor <;> omega
  unfold dayFromYear at hfrom hto
  omega

theorem readDateParts_datePartsText {year : Int} {month date hour minute second millisecond : Nat}
    (hyear : year.natAbs < 10 ^ 6) (hmonth : month < 10 ^ 2) (hdate : date < 10 ^ 2)
    (hhour : hour < 10 ^ 2) (hminute : minute < 10 ^ 2) (hsecond : second < 10 ^ 2)
    (hmillisecond : millisecond < 10 ^ 3) :
    readDateParts (datePartsText year month date hour minute second millisecond) =
      some ((dayFromYear year + monthStart (inLeapYear year) (month - 1) + date - 1) * 86400000 +
        hour * 3600000 + minute * 60000 + second * 1000 + millisecond) := by
  simp only [datePartsText, readDateParts, readYear_yearText hyear, expectUnit_cons,
    readDigits_digits_of_lt hmonth, readDigits_digits_of_lt hdate, readDigits_digits_of_lt hhour,
    readDigits_digits_of_lt hminute, readDigits_digits_of_lt hsecond,
    readDigits_digits_of_lt hmillisecond, Option.bind_eq_bind, Option.bind_some]

theorem parseDateText_dateText {ms : Int} (h : IsDate ms) :
    parseDateText (dateText ms) = some ms := by
  have hyear := year_bounds h
  obtain ⟨hday₁, hday₂, hleap⟩ := dayInYear_bounds (ms / 86400000)
  obtain ⟨hdate₁, hdate₂, hmonth⟩ := dayInMonth_bounds ⟨hday₁, hday₂⟩ hleap
  have hread : readDateParts (dateText ms) = some ms := by
    simp only [dateText]
    rw [readDateParts_datePartsText hyear (by omega) (by omega) (by omega) (by omega) (by omega)
      (by omega), Option.some.injEq, Nat.add_sub_cancel]
    omega
  simp [parseDateText, hread, h]

/-! ## What the program asks of a date's text -/

/-- `Date.parse`, and the check of a timestamp by its schema. -/
structure JsDates where
  parse : JsString → IsoTimestamp
  /-- `z.string().datetime({ offset: true })`. -/
  isDatetime : JsString → Bool
  isDate_of_parse : ∀ text ms, parse text = some ms → IsDate ms
  parse_dateText : ∀ ms, IsDate ms → parse (dateText ms) = some ms
  isDatetime_dateText : ∀ ms, IsDate ms → (isDatetime (dateText ms) = true ↔ InFourDigitYear ms)

/-- The dates whose texts are as `toISOString` writes them. -/
def writtenDates : JsDates where
  parse := parseDateText
  isDatetime text := (parseDateText text).any fun ms => decide (InFourDigitYear ms)
  isDate_of_parse text ms h := by
    have hfilter := (Option.filter_eq_some_iff.mp h).2
    rw [Bool.and_eq_true, decide_eq_true_eq] at hfilter
    exact hfilter.1
  parse_dateText _ h := parseDateText_dateText h
  isDatetime_dateText _ h := by simp [parseDateText_dateText h]

end X424
