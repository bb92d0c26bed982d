import Mathlib.Algebra.Order.Ring.Rat
import X424.Foundation.Doubles
import X424.Foundation.Machine
import X424.Foundation.SlidingWindow
import X424.Js.Text

/-!
# Rate limits

`MemoryRateLimiter` of `ops/limits.ts`.  It keeps for each key the times of its
allowed calls, oldest first, and drops at each call those that have left the
window.  What it answers is what the history of allowed calls says, as long as
the sums of its doubles are not rounded.
-/

namespace X424

open Foundation Foundation.SlidingWindow

structure RateLimitResult where
  allowed : Bool
  remaining : Nat
  resetAt : ℚ
  deriving DecidableEq

structure MemoryRateLimiterOptions where
  windowMs : ℚ
  maxRequests : Nat

/-- `#hits`; a key that it does not hold has no times. -/
abbrev RateLimiterHits := JsString → List ℚ

namespace MemoryRateLimiter

def consume (options : MemoryRateLimiterOptions) (key : JsString) (now : ℚ)
    (hits : RateLimiterHits) : RateLimitResult × RateLimiterHits :=
  let windowStart := Doubles.sub now options.windowMs
  let prior := (hits key).filter fun ts => decide (windowStart < ts)
  if options.maxRequests ≤ prior.length then
    (⟨false, 0, Doubles.add (prior.head?.getD now) options.windowMs⟩,
      Function.update hits key prior)
  else
    let prior := prior ++ [now]
    (⟨true, options.maxRequests - prior.length, Doubles.add now options.windowMs⟩,
      Function.update hits key prior)

end MemoryRateLimiter

/-! ## Runs -/

structure RateLimitCall where
  key : JsString
  now : ℚ
  result : RateLimitResult

structure RateLimitEvent where
  key : JsString
  now : ℚ

structure RateLimiterState where
  hits : RateLimiterHits
  log : List RateLimitCall

def RateLimiterState.initial : RateLimiterState := ⟨fun _ => [], []⟩

def allowedTimes (key : JsString) : List RateLimitCall → List ℚ
  | [] => []
  | call :: earlier =>
      if call.key = key ∧ call.result.allowed = true then allowedTimes key earlier ++ [call.now]
      else allowedTimes key earlier

section Limiter

variable (options : MemoryRateLimiterOptions)

def rateLimiterStep (s : RateLimiterState) (event : RateLimitEvent) : Option RateLimiterState :=
  if s.log.head?.all fun call => decide (call.now ≤ event.now) then
    let reply := MemoryRateLimiter.consume options event.key event.now s.hits
    some ⟨reply.2, ⟨event.key, event.now, reply.1⟩ :: s.log⟩
  else none

def rateLimiterMachine : Machine RateLimiterState RateLimitEvent := ⟨rateLimiterStep options⟩

/-- The start and the end of the window of a call at this time are doubles. -/
structure Unrounded (now : ℚ) : Prop where
  start : Doubles.IsDouble (now - options.windowMs)
  reset : Doubles.IsDouble (now + options.windowMs)

def windowAnswer (prior : List ℚ) (now : ℚ) : RateLimitResult :=
  if options.maxRequests ≤ prior.length then ⟨false, 0, prior.head?.getD now + options.windowMs⟩
  else ⟨true, options.maxRequests - (prior.length + 1), now + options.windowMs⟩

def roundedAnswer (prior : List ℚ) (now : ℚ) : RateLimitResult :=
  if options.maxRequests ≤ prior.length then
    ⟨false, 0, Doubles.add (prior.head?.getD now) options.windowMs⟩
  else ⟨true, options.maxRequests - (prior.length + 1), Doubles.add now options.windowMs⟩

def Recorded : List RateLimitCall → Prop
  | [] => True
  | call :: earlier =>
      call.result = windowAnswer options
        (window options.windowMs call.now (allowedTimes call.key earlier)) call.now ∧
        Recorded earlier

structure SlidingWindowExact (events : List RateLimitEvent) (s : RateLimiterState) : Prop where
  bounded : ∀ key t,
    (window options.windowMs t (allowedTimes key s.log)).length ≤ options.maxRequests
  exact : ∀ {later call earlier}, s.log = later ++ call :: earlier →
    (call.result.allowed = true ↔
      (window options.windowMs call.now (allowedTimes call.key earlier)).length <
        options.maxRequests)
  /-- A retry before any other call for the key is allowed from `resetAt` on. -/
  retry : ∀ {later retry between denied earlier},
    s.log = later ++ retry :: (between ++ denied :: earlier) → denied.result.allowed = false →
    retry.key = denied.key → (∀ call ∈ between, call.key ≠ denied.key) →
    (retry.result.allowed = true ↔ denied.result.resetAt ≤ retry.now)
  alone : ∀ key, ∃ t, (rateLimiterMachine options).run .initial
      (events.filter fun event => decide (event.key = key)) = some t ∧
    t.log = s.log.filter fun call => decide (call.key = key)

end Limiter

/-! ## What was recorded -/

section Recorded

variable {options : MemoryRateLimiterOptions} {log : List RateLimitCall} {key : JsString}

abbrev ClockOrder (log : List RateLimitCall) : Prop :=
  log.Pairwise fun later earlier => earlier.now ≤ later.now

theorem windowAnswer_allowed {prior : List ℚ} {now : ℚ} :
    (windowAnswer options prior now).allowed = true ↔ prior.length < options.maxRequests := by
  unfold windowAnswer
  split_ifs with h
  · exact iff_of_false (by simp) (not_lt.mpr h)
  · exact iff_of_true rfl (not_le.mp h)

theorem allowedTimes_le {t : ℚ} (h : ∀ call ∈ log, call.now ≤ t) :
    ∀ time ∈ allowedTimes key log, time ≤ t := by
  induction log with
  | nil => exact List.forall_mem_nil _
  | cons call earlier ih =>
      obtain ⟨hcall, hearlier⟩ := List.forall_mem_cons.mp h
      rw [allowedTimes]
      split_ifs
      · exact List.forall_mem_append.mpr ⟨ih hearlier, List.forall_mem_singleton.mpr hcall⟩
      · exact ih hearlier

theorem allowedTimes_skip {between earlier : List RateLimitCall}
    (h : ∀ call ∈ between, call.key ≠ key ∨ call.result.allowed = false) :
    allowedTimes key (between ++ earlier) = allowedTimes key earlier := by
  induction between with
  | nil => rfl
  | cons call between ih =>
      obtain ⟨hcall, hbetween⟩ := List.forall_mem_cons.mp h
      rw [List.cons_append, allowedTimes, if_neg, ih hbetween]
      rintro ⟨hkey, hallowed⟩
      rcases hcall with hne | hdenied
      · exact hne hkey
      · rw [hdenied] at hallowed
        cases hallowed

theorem Recorded.of_append {later earlier : List RateLimitCall}
    (h : Recorded options (later ++ earlier)) : Recorded options earlier := by
  induction later with
  | nil => exact h
  | cons call later ih => exact ih h.2

theorem Recorded.admitted (h : Recorded options log) (horder : ClockOrder log) (key : JsString) :
    Admitted options.windowMs options.maxRequests (allowedTimes key log) := by
  induction log with
  | nil => exact .nil
  | cons call earlier ih =>
      obtain ⟨hle, hearlier⟩ := List.pairwise_cons.mp horder
      rw [allowedTimes]
      split_ifs with hallowed
      · obtain ⟨rfl, hresult⟩ := hallowed
        rw [h.1] at hresult
        exact .snoc (ih h.2 hearlier) (allowedTimes_le hle) (windowAnswer_allowed.mp hresult)
      · exact ih h.2 hearlier

theorem Recorded.retry_iff (hmax : 0 < options.maxRequests)
    {later between earlier : List RateLimitCall} {retry denied : RateLimitCall}
    (h : Recorded options (later ++ retry :: (between ++ denied :: earlier)))
    (horder : ClockOrder (later ++ retry :: (between ++ denied :: earlier)))
    (hdenied : denied.result.allowed = false) (hkey : retry.key = denied.key)
    (hbetween : ∀ call ∈ between, call.key ≠ denied.key) :
    retry.result.allowed = true ↔ denied.result.resetAt ≤ retry.now := by
  have hretry := h.of_append
  have hbefore := hretry.2.of_append
  obtain ⟨hlater, hordered⟩ := List.pairwise_cons.mp (List.pairwise_append.mp horder).2.1
  obtain ⟨hle, hearlier⟩ := List.pairwise_cons.mp (List.pairwise_append.mp hordered).2.1
  have hadmitted := hbefore.2.admitted hearlier denied.key
  have hsame : allowedTimes denied.key (between ++ denied :: earlier) =
      allowedTimes denied.key earlier := by
    rw [← List.singleton_append, ← List.append_assoc]
    refine allowedTimes_skip (List.forall_mem_append.mpr
      ⟨fun call hcall => .inl (hbetween call hcall), List.forall_mem_singleton.mpr (.inr hdenied)⟩)
  have hfull : (window options.windowMs denied.now (allowedTimes denied.key earlier)).length =
      options.maxRequests := by
    refine le_antisymm (hadmitted.length_window_le _) (not_lt.mp fun hroom => ?_)
    rw [hbefore.1, windowAnswer_allowed.mpr hroom] at hdenied
    cases hdenied
  obtain ⟨oldest, rest, holdest⟩ := List.exists_cons_of_length_pos (hfull ▸ hmax)
  have hreset : denied.result.resetAt = oldest + options.windowMs := by
    rw [hbefore.1, windowAnswer, if_pos hfull.ge, holdest]
    rfl
  have htime : denied.now ≤ retry.now :=
    hlater denied (List.mem_append_right _ List.mem_cons_self)
  rw [hretry.1, windowAnswer_allowed, hkey, hsame, hreset,
    room_iff hadmitted.sorted (allowedTimes_le hle) hfull holdest htime]

end Recorded

/-! ## The limiter keeps what its windows need -/

section Invariant

variable {options : MemoryRateLimiterOptions} {s s' : RateLimiterState} {event : RateLimitEvent}

structure LimiterInvariant (options : MemoryRateLimiterOptions) (s : RateLimiterState) :
    Prop where
  inOrder : ClockOrder s.log
  recorded : Recorded options s.log
  kept : ∀ key t, (∀ call ∈ s.log, call.now ≤ t) →
    (s.hits key).filter (fun ts => decide (t - options.windowMs < ts)) =
      window options.windowMs t (allowedTimes key s.log)
  unrounded : ∀ key, ∀ time ∈ s.hits key, Unrounded options time

theorem LimiterInvariant.initial : LimiterInvariant options .initial :=
  ⟨List.Pairwise.nil, trivial, fun _ _ _ => rfl, fun _ => List.forall_mem_nil _⟩

theorem rateLimiterStep_eq_some :
    rateLimiterStep options s event = some s' ↔
      (∀ call ∈ s.log.head?, call.now ≤ event.now) ∧
        s' = ⟨(MemoryRateLimiter.consume options event.key event.now s.hits).2,
          ⟨event.key, event.now,
            (MemoryRateLimiter.consume options event.key event.now s.hits).1⟩ :: s.log⟩ := by
  rw [rateLimiterStep, Option.ite_none_right_eq_some, Option.some.injEq, eq_comm (b := s')]
  refine and_congr_left fun _ => ?_
  cases s.log.head? <;> simp

theorem log_le (h : ClockOrder s.log) {t : ℚ} (hhead : ∀ call ∈ s.log.head?, call.now ≤ t) :
    ∀ call ∈ s.log, call.now ≤ t := by
  cases hlog : s.log with
  | nil => exact List.forall_mem_nil _
  | cons first earlier =>
      rw [hlog] at h hhead
      have hfirst := hhead first rfl
      refine List.forall_mem_cons.mpr ⟨hfirst, fun call hcall => ?_⟩
      exact ((List.pairwise_cons.mp h).1 call hcall).trans hfirst

theorem consume_eq (options : MemoryRateLimiterOptions) (key : JsString) (now : ℚ)
    (hits : RateLimiterHits) :
    MemoryRateLimiter.consume options key now hits =
      let prior := (hits key).filter fun ts => decide (Doubles.sub now options.windowMs < ts)
      (roundedAnswer options prior now,
        Function.update hits key
          (if (roundedAnswer options prior now).allowed then prior ++ [now] else prior)) := by
  unfold MemoryRateLimiter.consume roundedAnswer
  by_cases h : options.maxRequests ≤
      ((hits key).filter fun ts => decide (Doubles.sub now options.windowMs < ts)).length
  · simp only [if_pos h, Bool.false_eq_true, if_false]
  · simp only [if_neg h, if_true, List.length_append, List.length_singleton]

theorem roundedAnswer_eq {prior : List ℚ} {now : ℚ} (hnow : Unrounded options now)
    (hprior : ∀ time ∈ prior, Unrounded options time) :
    roundedAnswer options prior now = windowAnswer options prior now := by
  have hadd : ∀ {time}, Unrounded options time →
      Doubles.add time options.windowMs = time + options.windowMs :=
    fun h => Doubles.toDouble_of_isDouble h.reset
  have hhead : Unrounded options (prior.head?.getD now) := by
    cases prior with
    | nil => exact hnow
    | cons oldest rest => exact hprior oldest List.mem_cons_self
  rw [roundedAnswer, windowAnswer, hadd hnow, hadd hhead]

theorem LimiterInvariant.step (h : LimiterInvariant options s)
    (hnow : Unrounded options event.now)
    (hstep : rateLimiterStep options s event = some s') : LimiterInvariant options s' := by
  obtain ⟨hhead, rfl⟩ := rateLimiterStep_eq_some.mp hstep
  have hle := log_le h.inOrder hhead
  have hstart : Doubles.sub event.now options.windowMs = event.now - options.windowMs :=
    Doubles.toDouble_of_isDouble hnow.start
  have hprior := h.kept event.key event.now hle
  have hunrounded : ∀ time ∈ window options.windowMs event.now (allowedTimes event.key s.log),
      Unrounded options time := by
    intro time htime
    rw [← hprior] at htime
    exact h.unrounded event.key time (List.mem_filter.mp htime).1
  rw [consume_eq]
  simp only [hstart, hprior, roundedAnswer_eq hnow hunrounded]
  refine ⟨List.pairwise_cons.mpr ⟨hle, h.inOrder⟩, ⟨rfl, h.recorded⟩, fun key t ht => ?_,
    fun key => ?_⟩
  · obtain ⟨hlast, hlater⟩ := List.forall_mem_cons.mp ht
    have htimes : ∀ time ∈ allowedTimes event.key s.log, time ≤ event.now := allowedTimes_le hle
    have hone : window options.windowMs t [event.now] =
        [event.now].filter fun ts => decide (t - options.windowMs < ts) :=
      window_of_le (List.forall_mem_singleton.mpr hlast)
    have hpruned : (window options.windowMs event.now (allowedTimes event.key s.log)).filter
        (fun ts => decide (t - options.windowMs < ts)) =
          window options.windowMs t (allowedTimes event.key s.log) := by
      rw [← window_window htimes hlast]
      exact (window_of_le fun time htime => (mem_window.mp htime).2.2.trans hlast).symm
    by_cases hkey : event.key = key
    · subst hkey
      simp only [Function.update_self, allowedTimes, true_and]
      split_ifs with hallowed
      · rw [List.filter_append, hpruned, window_append, hone]
      · exact hpruned
    · simp only [Function.update_of_ne (Ne.symm hkey), allowedTimes, hkey, false_and, if_false]
      exact h.kept key t hlater
  · by_cases hkey : event.key = key
    · subst hkey
      simp only [Function.update_self]
      split_ifs
      · exact List.forall_mem_append.mpr ⟨hunrounded, List.forall_mem_singleton.mpr hnow⟩
      · exact hunrounded
    · simp only [Function.update_of_ne (Ne.symm hkey)]
      exact h.unrounded key

theorem LimiterInvariant.reached {events : List RateLimitEvent}
    (hexact : ∀ event ∈ events, Unrounded options event.now)
    (hrun : (rateLimiterMachine options).run .initial events = some s) :
    LimiterInvariant options s := by
  have halong := (rateLimiterMachine options).along_imp (I := fun _ => True)
    (fun _ _ _ _ _ _ _ => trivial) (fun _ _ _ hevent _ => hevent) trivial hexact
    ((rateLimiterMachine options).along_true .initial events)
  exact (rateLimiterMachine options).invariant_along
    (fun _ _ _ h hevent hstep => h.step hevent hstep) .initial halong hrun

/-- The state of a run with the calls for one key only. -/
structure SameFor (key : JsString) (s t : RateLimiterState) : Prop where
  inOrder : ClockOrder s.log
  hits : t.hits key = s.hits key
  log : t.log = s.log.filter fun call => decide (call.key = key)

theorem SameFor.kept {key : JsString} {t : RateLimiterState} (h : SameFor key s t)
    (hkey : event.key = key) (hstep : rateLimiterStep options s event = some s') :
    ∃ t', rateLimiterStep options t event = some t' ∧ SameFor key s' t' := by
  subst hkey
  obtain ⟨hhead, rfl⟩ := rateLimiterStep_eq_some.mp hstep
  have hle := log_le h.inOrder hhead
  refine ⟨_, rateLimiterStep_eq_some.mpr ⟨fun call hcall => ?_, rfl⟩,
    List.pairwise_cons.mpr ⟨hle, h.inOrder⟩, ?_, ?_⟩
  · have hmem : call ∈ t.log := List.mem_of_mem_head? hcall
    rw [h.log] at hmem
    exact hle call (List.mem_filter.mp hmem).1
  · simp only [consume_eq, h.hits, Function.update_self]
  · simp only [consume_eq, h.hits, h.log]
    exact (List.filter_cons_of_pos (by simp)).symm

theorem SameFor.dropped {key : JsString} {t : RateLimiterState} (h : SameFor key s t)
    (hkey : event.key ≠ key) (hstep : rateLimiterStep options s event = some s') :
    SameFor key s' t := by
  obtain ⟨hhead, rfl⟩ := rateLimiterStep_eq_some.mp hstep
  refine ⟨List.pairwise_cons.mpr ⟨log_le h.inOrder hhead, h.inOrder⟩, ?_, ?_⟩
  · simp only [consume_eq, Function.update_of_ne (Ne.symm hkey), h.hits]
  · rw [h.log]
    exact (List.filter_cons_of_neg (by simpa using hkey)).symm

end Invariant

/-- As long as no sum is rounded, `MemoryRateLimiter` is an exact sliding window. -/
theorem rateLimiter_exact {options : MemoryRateLimiterOptions} (hmax : 0 < options.maxRequests)
    {events : List RateLimitEvent} (hexact : ∀ event ∈ events, Unrounded options event.now)
    {s : RateLimiterState} (hrun : (rateLimiterMachine options).run .initial events = some s) :
    SlidingWindowExact options events s := by
  have hfinal := LimiterInvariant.reached hexact hrun
  refine ⟨fun key t => (hfinal.recorded.admitted hfinal.inOrder key).length_window_le t,
    fun {later call earlier} hlog => ?_, fun {later retry between denied earlier} hlog => ?_,
    fun key => ?_⟩
  · have hrecorded := hfinal.recorded
    rw [hlog] at hrecorded
    rw [hrecorded.of_append.1, windowAnswer_allowed]
  · have hrecorded := hfinal.recorded
    have horder := hfinal.inOrder
    rw [hlog] at hrecorded horder
    exact hrecorded.retry_iff hmax horder
  · obtain ⟨t, ht, hsame⟩ := (rateLimiterMachine options).run_filter (R := SameFor key)
      (fun h _ hkeep hstep => h.kept (of_decide_eq_true hkeep) hstep)
      (fun h _ hkeep hstep => h.dropped (of_decide_eq_false hkeep) hstep)
      ⟨List.Pairwise.nil, rfl, rfl⟩ ((rateLimiterMachine options).along_true _ _) hrun
    exact ⟨t, ht, hsame.log⟩

theorem unrounded_of_whole {windowMs now : ℤ} (hwindow : |windowMs| ≤ 2 ^ 52)
    (hnow : |now| < 2 ^ 52) (maxRequests : Nat) : Unrounded ⟨windowMs, maxRequests⟩ now := by
  constructor
  · rw [← Int.cast_sub]
    exact Doubles.isDouble_intCast (by rw [abs_le] at hwindow; rw [abs_lt] at *; omega)
  · rw [← Int.cast_add]
    exact Doubles.isDouble_intCast (by rw [abs_le] at hwindow; rw [abs_lt] at *; omega)

/-- One call a second: the second call within it is denied, and allowed when it is over. -/
theorem rateLimiter_exact_oneASecond :
    ∃ s, (rateLimiterMachine ⟨(1000 : ℤ), 1⟩).run .initial
        [⟨js "k", (0 : ℤ)⟩, ⟨js "k", (500 : ℤ)⟩, ⟨js "other", (600 : ℤ)⟩,
          ⟨js "k", (1000 : ℤ)⟩] = some s ∧
      SlidingWindowExact ⟨(1000 : ℤ), 1⟩
        [⟨js "k", (0 : ℤ)⟩, ⟨js "k", (500 : ℤ)⟩, ⟨js "other", (600 : ℤ)⟩,
          ⟨js "k", (1000 : ℤ)⟩] s := by
  obtain ⟨s, hrun⟩ := Option.isSome_iff_exists.mp
    (by decide +kernel : ((rateLimiterMachine ⟨(1000 : ℤ), 1⟩).run .initial
      [⟨js "k", (0 : ℤ)⟩, ⟨js "k", (500 : ℤ)⟩, ⟨js "other", (600 : ℤ)⟩,
        ⟨js "k", (1000 : ℤ)⟩]).isSome = true)
  have hexact : ∀ n : ℤ, |n| < 2 ^ 52 → Unrounded ⟨(1000 : ℤ), 1⟩ n :=
    fun _ hn => unrounded_of_whole (by decide) hn 1
  refine ⟨s, hrun, rateLimiter_exact (by decide) ?_ hrun⟩
  simp only [List.forall_mem_cons, List.not_mem_nil, false_implies, implies_true, and_true]
  exact ⟨hexact 0 (by decide), hexact 500 (by decide), hexact 600 (by decide),
    hexact 1000 (by decide)⟩

/-! ## A window that is rounded -/

namespace RoundedWindow

def options : MemoryRateLimiterOptions := ⟨Doubles.toDouble (10000001 / 10000), 1⟩

def events : List RateLimitEvent := [⟨js "k", 1700000000000⟩, ⟨js "k", 1700000001000⟩]

end RoundedWindow

/-- Two calls that are a second apart are allowed in a window that is longer. -/
theorem rateLimiter_notExact : ¬ ∀ (options : MemoryRateLimiterOptions), 0 < options.windowMs →
    0 < options.maxRequests → ∀ events s,
      (rateLimiterMachine options).run .initial events = some s →
        SlidingWindowExact options events s := by
  intro h
  have hheld : ((rateLimiterMachine RoundedWindow.options).run .initial RoundedWindow.events).map
      (fun s => (window RoundedWindow.options.windowMs 1700000001000
        (allowedTimes (js "k") s.log)).length) = some 2 := by decide +kernel
  obtain ⟨s, hrun, htwo⟩ := Option.map_eq_some_iff.mp hheld
  have hexact := h RoundedWindow.options (by decide +kernel) (by decide) RoundedWindow.events s
    hrun
  have hone := hexact.bounded (js "k") 1700000001000
  rw [htwo] at hone
  exact absurd hone (by decide)

end X424
