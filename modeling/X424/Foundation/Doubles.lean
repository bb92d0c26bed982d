import Mathlib.Data.Int.Log
import Mathlib.Data.Rat.Floor

/-!
# Sums of doubles

A double is a rational number with at most 53 significant bits and an exponent
of at least -1074.  The sum of two doubles is rounded to the nearest double, to
the even one of two that are equally near; a sum that is a double is itself.
Numbers too large for a double are not considered.
-/

namespace X424.Foundation.Doubles

def IsDouble (q : ℚ) : Prop :=
  ∃ m e : ℤ, |m| < 2 ^ 53 ∧ -1074 ≤ e ∧ q = m * 2 ^ e

def roundEven (q : ℚ) : ℤ :=
  if q - ⌊q⌋ < 1 / 2 then ⌊q⌋
  else if 1 / 2 < q - ⌊q⌋ then ⌊q⌋ + 1
  else ⌊q⌋ + ⌊q⌋ % 2

def lastBit (q : ℚ) : ℤ := max (Int.log 2 |q| - 52) (-1074)

def toDouble (q : ℚ) : ℚ := roundEven (q / 2 ^ lastBit q) * 2 ^ lastBit q

def add (a b : ℚ) : ℚ := toDouble (a + b)

def sub (a b : ℚ) : ℚ := toDouble (a - b)

theorem roundEven_whole (n : ℤ) : roundEven n = n := by
  rw [roundEven, Int.floor_intCast, sub_self, if_pos (by norm_num)]

theorem toDouble_zero : toDouble 0 = 0 := by
  have hzero : roundEven 0 = 0 := by exact_mod_cast roundEven_whole 0
  rw [toDouble, zero_div, hzero, Int.cast_zero, zero_mul]

theorem isDouble_intCast {n : ℤ} (h : |n| < 2 ^ 53) : IsDouble n :=
  ⟨n, 0, h, by decide, by simp⟩

theorem lastBit_le {m e : ℤ} (hm : |m| < 2 ^ 53) (hm0 : m ≠ 0) (he : -1074 ≤ e) :
    lastBit ((m : ℚ) * 2 ^ e) ≤ e := by
  have hpos : (0 : ℚ) < 2 ^ e := zpow_pos (by norm_num) e
  have hne : (0 : ℚ) < |(m : ℚ) * 2 ^ e| :=
    abs_pos.mpr (mul_ne_zero (Int.cast_ne_zero.mpr hm0) hpos.ne')
  have hsize : |(m : ℚ) * 2 ^ e| < ((2 : ℕ) : ℚ) ^ (53 + e) := by
    have hcast : |(m : ℚ)| < 2 ^ (53 : ℤ) := by exact_mod_cast hm
    rw [abs_mul, abs_of_pos hpos, Nat.cast_ofNat, zpow_add₀ (by norm_num : (2 : ℚ) ≠ 0)]
    exact mul_lt_mul_of_pos_right hcast hpos
  have hlog := (Int.lt_zpow_iff_log_lt (by norm_num : 1 < 2) hne).mp hsize
  rw [lastBit]
  omega

theorem toDouble_of_isDouble {q : ℚ} (h : IsDouble q) : toDouble q = q := by
  obtain ⟨m, e, hm, he, rfl⟩ := h
  by_cases hm0 : m = 0
  · subst hm0
    rw [Int.cast_zero, zero_mul, toDouble_zero]
  · have hle := lastBit_le hm hm0 he
    have htwo : (2 : ℚ) ≠ 0 := by norm_num
    have hpos : (2 : ℚ) ^ lastBit ((m : ℚ) * 2 ^ e) ≠ 0 := zpow_ne_zero _ htwo
    obtain ⟨k, hk⟩ := Int.eq_ofNat_of_zero_le (Int.sub_nonneg.mpr hle)
    have hwhole : (m : ℚ) * 2 ^ e / 2 ^ lastBit ((m : ℚ) * 2 ^ e) = ((m * 2 ^ k : ℤ) : ℚ) := by
      rw [mul_div_assoc, ← zpow_sub₀ htwo, hk]
      push_cast
      simp
    rw [toDouble, hwhole, roundEven_whole, ← hwhole, div_mul_cancel₀ _ hpos]

end X424.Foundation.Doubles
