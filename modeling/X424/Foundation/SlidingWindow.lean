import Mathlib.Algebra.Order.Group.Defs
import Mathlib.Data.List.Basic

/-!
# Sliding windows

The times that lie in the window of length `w` that ends at `t`, for a list of
times in order.  A list is `Admitted` when each of its times came while its
window had room.
-/

namespace X424.Foundation

namespace SlidingWindow

variable {τ : Type*} [AddCommGroup τ] [LinearOrder τ] [IsOrderedAddMonoid τ]

/-- The times in `(t - w, t]`. -/
def window (w t : τ) (times : List τ) : List τ :=
  times.filter fun time => decide (t - w < time) && decide (time ≤ t)

variable {w t now : τ} {times : List τ} {limit : Nat}

omit [IsOrderedAddMonoid τ] in
theorem mem_window {time : τ} :
    time ∈ window w t times ↔ time ∈ times ∧ t - w < time ∧ time ≤ t := by
  simp only [window, List.mem_filter, Bool.and_eq_true, decide_eq_true_eq]

theorem length_window_mono {w' : τ} (hle : w ≤ w') (t : τ) (times : List τ) :
    (window w t times).length ≤ (window w' t times).length := by
  refine (List.monotone_filter_right times fun time htime => ?_).length_le
  rw [Bool.and_eq_true, decide_eq_true_eq] at htime ⊢
  exact ⟨lt_of_le_of_lt (sub_le_sub_left hle t) htime.1, htime.2⟩

omit [IsOrderedAddMonoid τ] in
theorem window_append (front back : List τ) :
    window w t (front ++ back) = window w t front ++ window w t back := List.filter_append ..

omit [IsOrderedAddMonoid τ] in
theorem window_of_le (h : ∀ time ∈ times, time ≤ t) :
    window w t times = times.filter fun time => decide (t - w < time) :=
  List.filter_congr fun time htime => by rw [decide_eq_true (h time htime), Bool.and_true]

theorem window_window (h : ∀ time ∈ times, time ≤ now) (hle : now ≤ t) :
    window w t (window w now times) = window w t times := by
  rw [window, window, List.filter_filter]
  refine List.filter_congr fun time htime => ?_
  have hnow := h time htime
  by_cases hstart : t - w < time
  · have hbefore : now - w < time := lt_of_le_of_lt (sub_le_sub_right hle w) hstart
    simp [hstart, hbefore, hnow]
  · simp [hstart]

/-- Each time came while fewer than `limit` others lay in its window. -/
inductive Admitted (w : τ) (limit : Nat) : List τ → Prop
  | nil : Admitted w limit []
  | snoc {times : List τ} {now : τ} (h : Admitted w limit times)
      (hle : ∀ time ∈ times, time ≤ now) (hroom : (window w now times).length < limit) :
      Admitted w limit (times ++ [now])

omit [IsOrderedAddMonoid τ] in
theorem Admitted.sorted (h : Admitted w limit times) : times.Pairwise (· ≤ ·) := by
  induction h with
  | nil => exact List.Pairwise.nil
  | snoc _ hle _ ih =>
      refine List.pairwise_append.mpr
        ⟨ih, List.pairwise_singleton _ _, fun time htime other hother => ?_⟩
      rw [List.mem_singleton.mp hother]
      exact hle time htime

/-- No window holds more than `limit` of the times. -/
theorem Admitted.length_window_le (h : Admitted w limit times) (t : τ) :
    (window w t times).length ≤ limit := by
  induction h with
  | nil => exact Nat.zero_le _
  | @snoc times now h hle hroom ih =>
      rw [window_append, List.length_append]
      by_cases hlast : t - w < now ∧ now ≤ t
      · -- a window that holds the last time holds of the others what lies in its window
        have hsub : window w t times = window w t (window w now times) :=
          (window_window hle hlast.2).symm
        have hshort : (window w t times).length ≤ (window w now times).length := by
          rw [hsub]
          exact List.length_filter_le _ _
        have hone : (window w t [now]).length ≤ 1 := List.length_filter_le _ _
        omega
      · have hnone : window w t [now] = [] := by
          refine List.filter_eq_nil_iff.mpr fun time htime => ?_
          rw [List.mem_singleton.mp htime, Bool.and_eq_true, decide_eq_true_eq, decide_eq_true_eq]
          exact hlast
        rw [hnone]
        exact ih

theorem room_iff {oldest : τ} {rest : List τ} (hsorted : times.Pairwise (· ≤ ·))
    (hle : ∀ time ∈ times, time ≤ now) (hfull : (window w now times).length = limit)
    (holdest : window w now times = oldest :: rest) (ht : now ≤ t) :
    (window w t times).length < limit ↔ oldest + w ≤ t := by
  have hsub : window w t times = window w t (oldest :: rest) := by
    rw [← holdest, window_window hle ht]
  rw [hsub, ← hfull, holdest]
  have hmem : ∀ time ∈ oldest :: rest, time ≤ now := fun time htime => by
    rw [← holdest] at htime
    exact (mem_window.mp htime).2.2
  have horder : ∀ time ∈ rest, oldest ≤ time := by
    have hwindow := hsorted.filter fun time => decide (now - w < time) && decide (time ≤ now)
    change (window w now times).Pairwise (· ≤ ·) at hwindow
    rw [holdest] at hwindow
    exact (List.pairwise_cons.mp hwindow).1
  constructor
  · intro hroom
    by_contra hlater
    have hin : t - w < oldest := sub_lt_iff_lt_add.mpr (not_le.mp hlater)
    have hall : window w t (oldest :: rest) = oldest :: rest := by
      refine List.filter_eq_self.mpr fun time htime => ?_
      have hstart : t - w < time := by
        rcases List.mem_cons.mp htime with rfl | hrest
        · exact hin
        · exact lt_of_lt_of_le hin (horder time hrest)
      rw [decide_eq_true hstart, decide_eq_true ((hmem time htime).trans ht)]
      rfl
    rw [hall] at hroom
    exact lt_irrefl _ hroom
  · intro hlater
    have hout : ¬ t - w < oldest := not_lt.mpr (le_sub_iff_add_le.mpr hlater)
    rw [window, List.filter_cons_of_neg (by simp [hout]), List.length_cons]
    exact Nat.lt_succ_of_le (List.length_filter_le _ _)

end SlidingWindow

end X424.Foundation
