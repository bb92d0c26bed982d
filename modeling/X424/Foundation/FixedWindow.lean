import X424.Foundation.SlidingWindow

/-!
# Fixed windows

Calls at times in order, the last one first.  The first call opens a window of
length `w`, and so does every call that finds the window before it closed.  A
call is admitted when fewer than `limit` calls came before it in its window.
However the windows lie, an interval of length `w` holds fewer than `2 * limit`
of the admitted calls.
-/

namespace X424.Foundation

namespace FixedWindow

open SlidingWindow

variable {τ : Type*} [AddCommGroup τ] [LinearOrder τ]

def opening (w : τ) : List τ → Option τ
  | [] => none
  | now :: earlier =>
      match opening w earlier with
      | some start => if now < start + w then some start else some now
      | none => some now

/-- When the window was opened that is open at `now`, if one is. -/
def openAt (w now : τ) (times : List τ) : Option τ :=
  (opening w times).filter fun start => decide (now < start + w)

/-- How many of the calls came in the window that is open at `now`. -/
def used (w now : τ) (times : List τ) : Nat :=
  match openAt w now times with
  | some start => times.countP fun time => decide (start ≤ time)
  | none => 0

def admitted (w : τ) (limit : Nat) : List τ → List τ
  | [] => []
  | now :: earlier =>
      if used w now earlier < limit then now :: admitted w limit earlier
      else admitted w limit earlier

variable {w now t start : τ} {times earlier : List τ} {limit : Nat}

theorem opening_cons :
    opening w (now :: earlier) = some ((openAt w now earlier).getD now) := by
  rw [opening, openAt]
  cases opening w earlier with
  | none => rfl
  | some start =>
      by_cases h : now < start + w
      · simp [h, Option.filter]
      · simp [h, Option.filter]

theorem openAt_eq_some :
    openAt w now times = some start ↔ opening w times = some start ∧ now < start + w := by
  rw [openAt, Option.filter_eq_some_iff, decide_eq_true_eq]

abbrev InOrder (times : List τ) : Prop := times.Pairwise fun later earlier => earlier ≤ later

/-- What a window holds of the calls and of the admitted ones. -/
structure Window (w : τ) (limit : Nat) (times : List τ) (start : τ) : Prop where
  admitted_mem : start ∈ admitted w limit times
  inside : (admitted w limit times).countP (fun time => decide (start ≤ time)) =
    min limit (times.countP fun time => decide (start ≤ time))
  /-- Of the window before it, an interval of length `w` that ends in it misses the start. -/
  before : ∀ a, start ≤ a + w →
    (admitted w limit times).countP (fun time => decide (a < time) && decide (time < start)) < limit

theorem admitted_subset : ∀ time ∈ admitted w limit times, time ∈ times := by
  induction times with
  | nil => exact List.forall_mem_nil _
  | cons now earlier ih =>
      intro time htime
      rw [admitted] at htime
      split_ifs at htime
      · rcases List.mem_cons.mp htime with rfl | hearlier
        · exact List.mem_cons_self
        · exact List.mem_cons_of_mem _ (ih time hearlier)
      · exact List.mem_cons_of_mem _ (ih time htime)

theorem Window.after_lt (h : Window w limit times start) :
    (admitted w limit times).countP (fun time => decide (start < time)) < limit := by
  have hle : (admitted w limit times).countP (fun time => decide (start ≤ time)) ≤ limit := by
    rw [h.inside]
    exact Nat.min_le_left _ _
  refine lt_of_lt_of_le ?_ hle
  simp only [List.countP_eq_length_filter]
  have hsub : (admitted w limit times).filter (fun time => decide (start < time)) =
      ((admitted w limit times).filter fun time => decide (start ≤ time)).filter
        fun time => decide (start < time) := by
    rw [List.filter_filter]
    refine List.filter_congr fun time _ => ?_
    by_cases hlt : start < time
    · simp [hlt, hlt.le]
    · simp [hlt]
  rw [hsub]
  refine List.length_filter_lt_length_iff_exists.mpr ⟨start, ?_, by simp⟩
  exact List.mem_filter.mpr ⟨h.admitted_mem, by simp⟩

theorem Window.extend (h : Window w limit earlier start) (hstart : start ≤ now)
    (hopen : openAt w now earlier = some start) : Window w limit (now :: earlier) start := by
  have hused : used w now earlier = earlier.countP fun time => decide (start ≤ time) := by
    rw [used, hopen]
  have hbefore : (decide (start ≤ now)) = true := decide_eq_true hstart
  refine ⟨?_, ?_, fun a ha => ?_⟩
  · rw [admitted]
    split_ifs
    · exact List.mem_cons_of_mem _ h.admitted_mem
    · exact h.admitted_mem
  · have hinside := h.inside
    rw [admitted]
    split_ifs with hroom
    · simp only [List.countP_cons, hbefore, if_true]
      omega
    · simp only [List.countP_cons, hbefore, if_true]
      omega
  · have hnot : (decide (a < now) && decide (now < start)) = false := by
      simp [not_lt.mpr hstart]
    rw [admitted]
    split_ifs
    · simp only [List.countP_cons, hnot, Bool.false_eq_true, if_false]
      exact h.before a ha
    · exact h.before a ha

theorem length_window_split (found : List τ) :
    (window w t found).length ≤ found.countP (fun time => decide (start ≤ time)) +
      found.countP (fun time => decide (t - w < time) && decide (time < start)) := by
  rw [window, ← List.countP_eq_length_filter]
  induction found with
  | nil => exact Nat.zero_le _
  | cons time found ih =>
      simp only [List.countP_cons, Bool.and_eq_true, decide_eq_true_eq]
      by_cases hin : start ≤ time
      · have hnot : ¬ time < start := not_lt.mpr hin
        simp only [hin, hnot, if_true, and_false, if_false]
        split_ifs <;> omega
      · have hlt : time < start := not_le.mp hin
        simp only [hin, hlt, if_false, and_true]
        split_ifs with hleft hright
        · omega
        · exact absurd hleft.1 hright
        · omega
        · omega

theorem opening_replicate {n : Nat} (h : openAt w now times = some start) :
    opening w (List.replicate n now ++ times) = some start := by
  obtain ⟨hopening, hnow⟩ := openAt_eq_some.mp h
  induction n with
  | zero => exact hopening
  | succ n ih =>
      rw [List.replicate_succ, List.cons_append, opening_cons, openAt_eq_some.mpr ⟨ih, hnow⟩]
      rfl

section Ordered

variable [IsOrderedAddMonoid τ]

theorem opening_spec (hw : 0 < w) (horder : InOrder times) (h : opening w times = some start) :
    start ∈ times ∧ ∀ time ∈ times, time < start + w := by
  induction times generalizing start with
  | nil => cases h
  | cons now earlier ih =>
      obtain ⟨hle, hearlier⟩ := List.pairwise_cons.mp horder
      rw [opening_cons, Option.some.injEq] at h
      cases hopen : openAt w now earlier with
      | some previous =>
          rw [hopen, Option.getD_some] at h
          subst h
          obtain ⟨hopening, hnow⟩ := openAt_eq_some.mp hopen
          obtain ⟨hmem, hlt⟩ := ih hearlier hopening
          exact ⟨List.mem_cons_of_mem _ hmem, List.forall_mem_cons.mpr ⟨hnow, hlt⟩⟩
      | none =>
          rw [hopen, Option.getD_none] at h
          subst h
          have hend := lt_add_of_pos_right now hw
          exact ⟨List.mem_cons_self, List.forall_mem_cons.mpr ⟨hend, fun time htime =>
            lt_of_le_of_lt (hle time htime) hend⟩⟩

theorem lt_of_closed (hw : 0 < w) (horder : InOrder times) (h : openAt w now times = none) :
    ∀ time ∈ times, time < now := by
  cases hopening : opening w times with
  | none =>
      cases times with
      | nil => exact List.forall_mem_nil _
      | cons first rest =>
          rw [opening_cons] at hopening
          cases hopening
  | some start =>
      rw [openAt, hopening, Option.filter_eq_none_iff] at h
      have hclosed := h start rfl
      rw [decide_eq_true_eq, not_lt] at hclosed
      intro time htime
      exact lt_of_lt_of_le ((opening_spec hw horder hopening).2 time htime) hclosed

theorem used_cons (hw : 0 < w) (horder : InOrder (now :: times)) :
    used w now (now :: times) = used w now times + 1 := by
  obtain ⟨hle, hearlier⟩ := List.pairwise_cons.mp horder
  have hopening := @opening_cons τ _ _ w now times
  cases hopen : openAt w now times with
  | some start =>
      obtain ⟨hbefore, hnow⟩ := openAt_eq_some.mp hopen
      rw [hopen, Option.getD_some] at hopening
      have hstart : start ≤ now := hle start (opening_spec hw hearlier hbefore).1
      rw [used, used, hopen, openAt_eq_some.mpr ⟨hopening, hnow⟩]
      simp [hstart]
  | none =>
      rw [hopen, Option.getD_none] at hopening
      have hzero : times.countP (fun time => decide (now ≤ time)) = 0 := by
        rw [List.countP_eq_zero]
        intro time htime
        simpa using lt_of_closed hw hearlier hopen time htime
      rw [used, used, hopen, openAt_eq_some.mpr ⟨hopening, lt_add_of_pos_right now hw⟩]
      simp [hzero]

theorem admitted_replicate (hw : 0 < w) (horder : InOrder times) (hle : ∀ time ∈ times, time ≤ now)
    {n : Nat} (hroom : n + used w now times ≤ limit) :
    admitted w limit (List.replicate n now ++ times) =
        List.replicate n now ++ admitted w limit times ∧
      used w now (List.replicate n now ++ times) = n + used w now times ∧
      InOrder (List.replicate n now ++ times) := by
  induction n with
  | zero => exact ⟨rfl, (Nat.zero_add _).symm, horder⟩
  | succ n ih =>
      obtain ⟨hadmitted, hused, hordered⟩ := ih (by omega)
      have hnext : InOrder (now :: (List.replicate n now ++ times)) := by
        refine List.pairwise_cons.mpr ⟨fun time htime => ?_, hordered⟩
        rcases List.mem_append.mp htime with hsame | hold
        · exact (List.eq_of_mem_replicate hsame).le
        · exact hle time hold
      rw [List.replicate_succ, List.cons_append]
      refine ⟨?_, ?_, hnext⟩
      · rw [admitted, hused, if_pos (by omega), hadmitted, List.cons_append]
      · rw [used_cons hw hnext, hused]
        omega

theorem Window.renew (hw : 0 < w) (hlimit : 0 < limit) (horder : InOrder earlier)
    (hprevious : ∀ start, opening w earlier = some start → Window w limit earlier start)
    (hopen : openAt w now earlier = none) : Window w limit (now :: earlier) now := by
  have hold := lt_of_closed hw horder hopen
  have hused : used w now earlier = 0 := by rw [used, hopen]
  have hadmitted : admitted w limit (now :: earlier) = now :: admitted w limit earlier := by
    rw [admitted, hused, if_pos hlimit]
  have hnone : ∀ {found : List τ}, (∀ time ∈ found, time ∈ earlier) →
      found.countP (fun time => decide (now ≤ time)) = 0 := by
    intro found hfound
    rw [List.countP_eq_zero]
    intro time htime
    simpa using hold time (hfound time htime)
  refine ⟨?_, ?_, fun a ha => ?_⟩
  · rw [hadmitted]
    exact List.mem_cons_self
  · rw [hadmitted, List.countP_cons_of_pos (by simp), List.countP_cons_of_pos (by simp),
      hnone admitted_subset, hnone fun _ htime => htime]
    omega
  · rw [hadmitted, List.countP_cons_of_neg (by simp)]
    cases hopening : opening w earlier with
    | none =>
        cases earlier with
        | nil => exact hlimit
        | cons first rest =>
            rw [opening_cons] at hopening
            cases hopening
    | some previous =>
        have hwindow := hprevious previous hopening
        rw [openAt, hopening, Option.filter_eq_none_iff] at hopen
        have hclosed := hopen previous rfl
        rw [decide_eq_true_eq, not_lt] at hclosed
        have hpast : previous ≤ a := le_of_add_le_add_right (hclosed.trans ha)
        refine lt_of_le_of_lt (List.countP_mono_left fun time _ htime => ?_) hwindow.after_lt
        rw [Bool.and_eq_true, decide_eq_true_eq] at htime
        exact decide_eq_true (lt_of_le_of_lt hpast htime.1)

theorem window_of_opening (hw : 0 < w) (hlimit : 0 < limit) (horder : InOrder times)
    (h : opening w times = some start) : Window w limit times start := by
  induction times generalizing start with
  | nil => cases h
  | cons now earlier ih =>
      obtain ⟨hle, hearlier⟩ := List.pairwise_cons.mp horder
      rw [opening_cons, Option.some.injEq] at h
      cases hopen : openAt w now earlier with
      | some previous =>
          rw [hopen, Option.getD_some] at h
          subst h
          obtain ⟨hopening, -⟩ := openAt_eq_some.mp hopen
          have hstart := hle previous (opening_spec hw hearlier hopening).1
          exact (ih hearlier hopening).extend hstart hopen
      | none =>
          rw [hopen, Option.getD_none] at h
          subst h
          exact Window.renew hw hlimit hearlier (fun _ => ih hearlier) hopen

theorem length_window_admitted_lt (hw : 0 < w) (hlimit : 0 < limit) (horder : InOrder times)
    (t : τ) : (window w t (admitted w limit times)).length < 2 * limit := by
  induction times with
  | nil => exact Nat.mul_pos (by decide) hlimit
  | cons now earlier ih =>
      obtain ⟨hle, hearlier⟩ := List.pairwise_cons.mp horder
      by_cases hnow : now ≤ t
      · obtain ⟨start, hopening⟩ : ∃ start, opening w (now :: earlier) = some start :=
          ⟨_, opening_cons⟩
        have hwindow := window_of_opening hw hlimit horder hopening
        have hstart : start ≤ now := by
          rcases List.mem_cons.mp (opening_spec hw horder hopening).1 with rfl | hmem
          · exact le_refl _
          · exact hle start hmem
        have hbefore := hwindow.before (t - w) (by rw [sub_add_cancel]; exact hstart.trans hnow)
        have hinside : (admitted w limit (now :: earlier)).countP
            (fun time => decide (start ≤ time)) ≤ limit := by
          rw [hwindow.inside]
          exact Nat.min_le_left _ _
        have hsplit := @length_window_split τ _ _ w t start (admitted w limit (now :: earlier))
        omega
      · rw [admitted]
        split_ifs
        · rw [window, List.filter_cons_of_neg (by simp [hnow])]
          exact ih hearlier
        · exact ih hearlier

end Ordered

end FixedWindow

end X424.Foundation
