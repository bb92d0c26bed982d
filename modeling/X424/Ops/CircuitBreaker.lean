import Mathlib.Algebra.Order.Ring.Cast
import Mathlib.Algebra.Order.Ring.Rat
import Mathlib.Data.Rat.Floor
import X424.Foundation.History
import X424.Js.Text

/-!
# The circuit breaker

`CircuitBreaker` of `ops/limits.ts`, and what it makes of a history of calls.
A call asks the breaker when it starts and tells it its outcome when it ends, so
calls that are in flight when the circuit opens, or when it closes again, are
counted with those that come after.
-/

namespace X424

open Foundation

structure CircuitBreakerOptions where
  failureThreshold : ℚ
  coolDownMs : ℚ

structure CircuitBreaker where
  failures : Nat
  openedAt : Option Instant
  deriving DecidableEq, Repr

namespace CircuitBreaker

def new : CircuitBreaker := ⟨0, none⟩

variable (options : CircuitBreakerOptions) (now : Instant)

def assertClosed (breaker : CircuitBreaker) : Except JsError CircuitBreaker :=
  match breaker.openedAt with
  | none => .ok breaker
  | some openedAt =>
      if ((now - openedAt : Int) : ℚ) < options.coolDownMs then
        .error ⟨js "Provider circuit open"⟩
      else .ok ⟨0, none⟩

def recordSuccess (_ : CircuitBreaker) : CircuitBreaker := ⟨0, none⟩

def recordFailure (breaker : CircuitBreaker) : CircuitBreaker :=
  let failures := breaker.failures + 1
  ⟨failures, if options.failureThreshold ≤ failures then some now else breaker.openedAt⟩

end CircuitBreaker

def CircuitBreakerOptions.limit (options : CircuitBreakerOptions) : Nat :=
  max 1 ⌈options.failureThreshold⌉₊

theorem CircuitBreakerOptions.threshold_le {options : CircuitBreakerOptions} {n : Nat} :
    options.failureThreshold ≤ ((n + 1 : Nat) : ℚ) ↔ options.limit ≤ n + 1 := by
  rw [limit, Nat.max_le, Nat.ceil_le]
  exact (and_iff_right (Nat.le_add_left 1 n)).symm

/-! ## Histories -/

inductive BreakerNote where
  | refused (now : Instant)
  | passed (now : Instant)
  | succeeded (now : Instant)
  | failed (now : Instant)
  deriving DecidableEq, Repr

namespace BreakerNote

def now : BreakerNote → Instant
  | refused now | passed now | succeeded now | failed now => now

def isPassed : BreakerNote → Bool
  | passed _ => true
  | _ => false

def isFailed : BreakerNote → Bool
  | failed _ => true
  | _ => false

def isSucceeded : BreakerNote → Bool
  | succeeded _ => true
  | _ => false

end BreakerNote

namespace CircuitBreaker

open BreakerNote

section Histories

variable (options : CircuitBreakerOptions)

def replay : List BreakerNote → CircuitBreaker
  | [] => new
  | refused _ :: earlier => replay earlier
  | passed now :: earlier =>
      match (replay earlier).assertClosed options now with
      | .ok breaker => breaker
      | .error _ => replay earlier
  | succeeded _ :: earlier => (replay earlier).recordSuccess
  | failed now :: earlier => (replay earlier).recordFailure options now

def inFlight : List BreakerNote → Nat
  | [] => 0
  | refused _ :: earlier => inFlight earlier
  | passed _ :: earlier => inFlight earlier + 1
  | succeeded _ :: earlier => inFlight earlier - 1
  | failed _ :: earlier => inFlight earlier - 1

/-- When calls have failed, the last one first, since the last success and since the last call
that passed after a cool-down. -/
def recentFailures : List BreakerNote → List Instant
  | [] => []
  | refused _ :: earlier => recentFailures earlier
  | passed _ :: earlier =>
      if options.limit ≤ (recentFailures earlier).length then [] else recentFailures earlier
  | succeeded _ :: _ => []
  | failed now :: earlier => now :: recentFailures earlier

/-- A call is noted as the breaker answers it, and its outcome when it is in flight. -/
def Allows (earlier : List BreakerNote) : BreakerNote → Prop
  | refused now => ∃ error, (replay options earlier).assertClosed options now = .error error
  | passed now => ∃ breaker, (replay options earlier).assertClosed options now = .ok breaker
  | succeeded _ | failed _ => 0 < inFlight earlier

/-- A history of calls that asked the breaker, in the order of the clock. -/
abbrev History (notes : List BreakerNote) : Prop :=
  EachAfter (fun earlier note => (∀ old ∈ earlier, old.now ≤ note.now) ∧
    Allows options earlier note) notes

/-- The circuit is open: enough calls have failed, and the last one less than a cool-down ago. -/
def Open (now : Instant) (failures : List Instant) : Prop :=
  options.limit ≤ failures.length ∧
    ∃ last ∈ failures.head?, ((now - last : Int) : ℚ) < options.coolDownMs

/-- Less than `d` before `t`. -/
def within (d : ℚ) (t now : Instant) : Bool :=
  decide (now ≤ t) && decide (((t - now : Int) : ℚ) < d)

end Histories

variable {options : CircuitBreakerOptions} {notes earlier : List BreakerNote}
  {note : BreakerNote} {now t : Instant} {d : ℚ}

/-! ## What the breaker remembers -/

def remembered (options : CircuitBreakerOptions) (failures : List Instant) : CircuitBreaker :=
  ⟨failures.length, if options.limit ≤ failures.length then failures.head? else none⟩

theorem limit_pos : 0 < options.limit := Nat.lt_of_lt_of_le Nat.one_pos (Nat.le_max_left _ _)

theorem remembered_nil : remembered options [] = ⟨0, none⟩ := by
  rw [remembered, List.length_nil, if_neg (Nat.not_le.mpr limit_pos)]

theorem assertClosed_of_not_open {failures : List Instant} (h : ¬ Open options now failures) :
    (remembered options failures).assertClosed options now =
      .ok (remembered options (if options.limit ≤ failures.length then [] else failures)) := by
  by_cases hlimit : options.limit ≤ failures.length
  · cases failures with
    | nil => exact absurd hlimit (Nat.not_le.mpr limit_pos)
    | cons last failures =>
        have hcool : ¬ ((now - last : Int) : ℚ) < options.coolDownMs := by
          intro hcool
          exact h ⟨hlimit, last, rfl, hcool⟩
        rw [if_pos hlimit, remembered_nil, remembered, if_pos hlimit, List.head?_cons,
          assertClosed]
        exact if_neg hcool
  · rw [if_neg hlimit, remembered, if_neg hlimit, assertClosed]

theorem assertClosed_of_open {failures : List Instant} (h : Open options now failures) :
    (remembered options failures).assertClosed options now =
      .error ⟨js "Provider circuit open"⟩ := by
  obtain ⟨hlimit, last, hlast, hcool⟩ := h
  rw [Option.mem_def] at hlast
  rw [remembered, if_pos hlimit, hlast, assertClosed]
  exact if_pos hcool

theorem recordFailure_remembered {failures : List Instant} :
    (remembered options failures).recordFailure options now =
      remembered options (now :: failures) := by
  rw [remembered, recordFailure, remembered, List.length_cons]
  by_cases hlimit : options.limit ≤ failures.length + 1
  · rw [if_pos (CircuitBreakerOptions.threshold_le.mpr hlimit), if_pos hlimit, List.head?_cons]
  · have hbefore : ¬ options.limit ≤ failures.length := by omega
    rw [if_neg (mt CircuitBreakerOptions.threshold_le.mp hlimit), if_neg hlimit, if_neg hbefore]

theorem replay_eq (h : History options notes) :
    replay options notes = remembered options (recentFailures options notes) := by
  induction notes with
  | nil => exact remembered_nil.symm
  | cons note earlier ih =>
      obtain ⟨⟨-, hallows⟩, hearlier⟩ := h
      cases note with
      | refused => exact ih hearlier
      | passed now =>
          obtain ⟨breaker, hclosed⟩ := hallows
          have hopen : ¬ Open options now (recentFailures options earlier) := by
            intro hopen
            rw [ih hearlier, assertClosed_of_open hopen] at hclosed
            cases hclosed
          rw [replay, ih hearlier, assertClosed_of_not_open hopen]
          rfl
      | succeeded => exact remembered_nil.symm
      | failed now =>
          rw [replay, ih hearlier, recordFailure_remembered]
          rfl

theorem assertClosed_eq (h : History options notes) :
    (∃ breaker, (replay options notes).assertClosed options now = .ok breaker) ↔
      ¬ Open options now (recentFailures options notes) := by
  rw [replay_eq h]
  constructor
  · rintro ⟨breaker, hclosed⟩ hopen
    rw [assertClosed_of_open hopen] at hclosed
    cases hclosed
  · exact fun hopen => ⟨_, assertClosed_of_not_open hopen⟩

/-! ## The recent failures -/

theorem failed_of_mem_recentFailures (h : now ∈ recentFailures options notes) :
    failed now ∈ notes := by
  induction notes with
  | nil => cases h
  | cons note earlier ih =>
      cases note with
      | refused => exact List.mem_cons_of_mem _ (ih h)
      | passed =>
          rw [recentFailures] at h
          split_ifs at h
          · cases h
          · exact List.mem_cons_of_mem _ (ih h)
      | succeeded => cases h
      | failed =>
          rcases List.mem_cons.mp h with rfl | hearlier
          · exact List.mem_cons_self
          · exact List.mem_cons_of_mem _ (ih hearlier)

theorem recentFailures_le (h : History options notes) {last : Instant}
    (hlast : last ∈ (recentFailures options notes).head?) :
    ∀ now ∈ recentFailures options notes, now ≤ last := by
  induction notes with
  | nil => cases hlast
  | cons note earlier ih =>
      obtain ⟨⟨horder, -⟩, hearlier⟩ := h
      cases note with
      | refused => exact ih hearlier hlast
      | passed =>
          rw [recentFailures] at hlast ⊢
          split_ifs at hlast ⊢
          · cases hlast
          · exact ih hearlier hlast
      | succeeded => cases hlast
      | failed now =>
          cases hlast
          refine List.forall_mem_cons.mpr ⟨le_refl _, fun old hold => ?_⟩
          exact horder _ (failed_of_mem_recentFailures hold)

/-- Nothing succeeded less than `d` before `t`. -/
def Quiet (d : ℚ) (t : Instant) (notes : List BreakerNote) : Prop :=
  ∀ note ∈ notes, note.isSucceeded = true → within d t note.now = false

def countFailed (d : ℚ) (t : Instant) (notes : List BreakerNote) : Nat :=
  notes.countP fun note => note.isFailed && within d t note.now

def countPassed (d : ℚ) (t : Instant) (notes : List BreakerNote) : Nat :=
  notes.countP fun note => note.isPassed && within d t note.now

theorem countFailed_cons : countFailed d t (note :: earlier) =
    countFailed d t earlier + if note.isFailed && within d t note.now then 1 else 0 :=
  List.countP_cons ..

theorem countPassed_cons : countPassed d t (note :: earlier) =
    countPassed d t earlier + if note.isPassed && within d t note.now then 1 else 0 :=
  List.countP_cons ..

theorem within_eq_false (ht : now ≤ t) : within d t now = false ↔ d ≤ ((t - now : Int) : ℚ) := by
  simp [within, ht]

theorem within_of_le {old : Instant} (ht : now ≤ t) (hold : old ≤ now)
    (h : within d t now = false) : within d t old = false := by
  rw [within_eq_false (hold.trans ht)]
  rw [within_eq_false ht] at h
  exact h.trans (Int.cast_le.mpr (Int.sub_le_sub_left hold t))

theorem Quiet.of_cons (h : Quiet d t (note :: earlier)) : Quiet d t earlier :=
  fun old hold => h old (List.mem_cons_of_mem _ hold)

theorem none_within (horder : ∀ old ∈ earlier, old.now ≤ now) (ht : now ≤ t)
    (h : within d t now = false) (kind : BreakerNote → Bool) :
    (earlier.countP fun old => kind old && within d t old.now) = 0 := by
  rw [List.countP_eq_zero]
  intro old hold
  rw [within_of_le ht (horder old hold) h, Bool.and_false]
  exact Bool.false_ne_true

/-- The failures since a time less than a cool-down ago are remembered, unless a call has
succeeded since. -/
theorem countFailed_eq (h : History options notes) (ht : ∀ note ∈ notes, note.now ≤ t)
    (hd : d ≤ options.coolDownMs) (hquiet : Quiet d t notes) :
    countFailed d t notes = (recentFailures options notes).countP (within d t) := by
  induction notes with
  | nil => rfl
  | cons note earlier ih =>
      obtain ⟨⟨horder, hallows⟩, hearlier⟩ := h
      obtain ⟨hnow, ht⟩ := List.forall_mem_cons.mp ht
      have hcount := ih hearlier ht hquiet.of_cons
      cases note with
      | refused => exact hcount
      | passed now =>
          have hsame : countFailed d t (passed now :: earlier) = countFailed d t earlier :=
            List.countP_cons_of_neg (by simp [isFailed])
          rw [recentFailures, hsame, hcount]
          split_ifs with hlimit
          · have hopen := (assertClosed_eq hearlier).mp hallows
            rw [List.countP_nil, List.countP_eq_zero]
            cases hrecent : recentFailures options earlier with
            | nil => exact List.forall_mem_nil _
            | cons last failures =>
                rw [hrecent] at hlimit hopen
                have hcool : ¬ ((now - last : Int) : ℚ) < options.coolDownMs :=
                  fun hcool => hopen ⟨hlimit, last, rfl, hcool⟩
                have hle := recentFailures_le hearlier
                  (by rw [hrecent]; rfl : last ∈ (recentFailures options earlier).head?)
                have hlast : last ≤ now := horder _ (failed_of_mem_recentFailures
                  (hrecent ▸ List.mem_cons_self : last ∈ recentFailures options earlier))
                have hlate : within d t last = false := by
                  rw [within_eq_false (hlast.trans hnow)]
                  refine hd.trans ((not_lt.mp hcool).trans (Int.cast_le.mpr ?_))
                  exact Int.sub_le_sub_right hnow last
                intro old hold
                rw [within_of_le (hlast.trans hnow) (hle old (hrecent ▸ hold)) hlate]
                exact Bool.false_ne_true
          · rfl
      | succeeded now =>
          have hlate : within d t now = false := hquiet _ List.mem_cons_self rfl
          have hsame : countFailed d t (succeeded now :: earlier) = countFailed d t earlier :=
            List.countP_cons_of_neg (by simp [isFailed])
          rw [hsame, countFailed, none_within horder hnow hlate]
          rfl
      | failed now =>
          rw [recentFailures, List.countP_cons, ← hcount, countFailed, List.countP_cons]
          rfl

theorem countPassed_le (h : History options notes) (ht : ∀ note ∈ notes, note.now ≤ t)
    (hquiet : Quiet d t notes) :
    countPassed d t notes ≤ inFlight notes + countFailed d t notes := by
  induction notes with
  | nil => exact Nat.zero_le _
  | cons note earlier ih =>
      obtain ⟨⟨horder, hallows⟩, hearlier⟩ := h
      obtain ⟨hnow, ht⟩ := List.forall_mem_cons.mp ht
      have hcount := ih hearlier ht hquiet.of_cons
      have hnone (hlate : within d t note.now = false) : countPassed d t earlier = 0 :=
        none_within horder hnow hlate isPassed
      rw [countPassed_cons, countFailed_cons]
      cases note with
      | refused => exact hcount
      | passed =>
          simp only [isFailed, inFlight, Bool.false_and, Bool.false_eq_true, if_false]
          split_ifs
          · omega
          · omega
      | succeeded now =>
          rw [hnone (hquiet _ List.mem_cons_self rfl)]
          exact Nat.zero_le _
      | failed now =>
          have hpositive : 0 < inFlight earlier := hallows
          simp only [isPassed, isFailed, inFlight, Bool.true_and, Bool.false_and,
            Bool.false_eq_true, if_false]
          split_ifs with hlate
          · omega
          · rw [hnone (Bool.eq_false_of_not_eq_true hlate)]
            exact Nat.zero_le _

theorem open_of_countP {failures : List Instant} (hd : d ≤ options.coolDownMs) (hnow : now ≤ t)
    (hle : ∀ last ∈ failures.head?, ∀ old ∈ failures, old ≤ last)
    (h : options.limit ≤ failures.countP (within d t)) : Open options now failures := by
  refine ⟨h.trans List.countP_le_length, ?_⟩
  obtain ⟨old, hold, hwithin⟩ := List.countP_pos_iff.mp (limit_pos.trans_le h)
  cases failures with
  | nil => cases hold
  | cons last failures =>
      refine ⟨last, rfl, ?_⟩
      rw [within, Bool.and_eq_true, decide_eq_true_eq, decide_eq_true_eq] at hwithin
      have hspan : now - last ≤ t - old := Int.sub_le_sub hnow (hle last rfl old hold)
      exact lt_of_le_of_lt (Int.cast_le.mpr hspan) (hwithin.2.trans_le hd)

/-- While nothing succeeds, a call finds the circuit closed only after few others have passed. -/
theorem countPassed_lt (h : History options notes) (horder : ∀ old ∈ notes, old.now ≤ now)
    (hnow : now ≤ t) (hd : d ≤ options.coolDownMs) (hquiet : Quiet d t notes)
    (hclosed : ¬ Open options now (recentFailures options notes)) :
    countPassed d t notes < inFlight notes + options.limit := by
  have ht : ∀ old ∈ notes, old.now ≤ t := fun old hold => (horder old hold).trans hnow
  have hfew : countFailed d t notes < options.limit := by
    rw [countFailed_eq h ht hd hquiet]
    refine not_le.mp fun hmany => hclosed ?_
    exact open_of_countP hd hnow (fun _ hlast => recentFailures_le h hlast) hmany
  exact lt_of_le_of_lt (countPassed_le h ht hquiet) (Nat.add_lt_add_left hfew _)

end CircuitBreaker

end X424
