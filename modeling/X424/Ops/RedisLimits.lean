import Mathlib.Algebra.Order.Group.Int
import Mathlib.Algebra.Order.Ring.Cast
import Mathlib.Order.Bounds.Basic
import X424.Foundation.Expiring
import X424.Foundation.FixedWindow
import X424.Foundation.History
import X424.Ops.Limits

/-!
# Rate limits in Redis

`RedisRateLimiter` of `redis.ts`: a counter for each key, which a script
increments, and gives an expiry when it has made it.  The verifiers that share
the database have clocks of their own; the windows are those of the server.
-/

namespace X424

open Foundation

/-! ## Counters -/

structure RedisCounter where
  value : Nat
  expiresAt : Option Instant
  deriving DecidableEq, Repr

def RedisCounter.live (now : Instant) (counter : RedisCounter) : Bool :=
  counter.expiresAt.all fun expiresAt => decide (now ≤ expiresAt)

abbrev RedisCounters := JsString → Option RedisCounter

namespace RedisCounters

variable (db : RedisCounters) (now : Instant) (key : JsString)

def find : Option RedisCounter := (db key).filter (RedisCounter.live now)

/-- `INCR key`, which leaves the expiry alone. -/
def incr : Nat × RedisCounters :=
  match db.find now key with
  | some counter =>
      (counter.value + 1,
        Function.update db key (some { counter with value := counter.value + 1 }))
  | none => (1, Function.update db key (some ⟨1, none⟩))

/-- `PEXPIRE key ms`. -/
def pexpire (ms : Nat) : RedisCounters :=
  match db.find now key with
  | some counter => Function.update db key (some { counter with expiresAt := some (now + ms) })
  | none => db

/-- `PTTL key`. -/
def pttl : Int :=
  match db.find now key with
  | none => -2
  | some counter =>
      match counter.expiresAt with
      | none => -1
      | some expiresAt => expiresAt - now

variable {db now key} {counter : RedisCounter}

@[simp] theorem find_update : find (Function.update db key (some counter)) now key =
    if counter.live now then some counter else none := by
  simp [find, Option.filter]

theorem find_update_of_ne {other : JsString} (h : other ≠ key) :
    find (Function.update db key (some counter)) now other = db.find now other := by
  simp [find, Function.update_of_ne h]

theorem incr_of_some (h : db.find now key = some counter) :
    db.incr now key = (counter.value + 1,
      Function.update db key (some { counter with value := counter.value + 1 })) := by
  rw [incr, h]

theorem incr_of_none (h : db.find now key = none) :
    db.incr now key = (1, Function.update db key (some ⟨1, none⟩)) := by
  rw [incr, h]

end RedisCounters

/-- `RATE_LIMIT_SCRIPT`. -/
def rateLimitScript (now : Instant) (key : JsString) (windowMs : Nat) (db : RedisCounters) :
    (Nat × Int) × RedisCounters :=
  let counted := db.incr now key
  let db := if counted.1 = 1 then counted.2.pexpire now key windowMs else counted.2
  ((counted.1, db.pttl now key), db)

/-! ## The limiter -/

structure RedisRateLimiterOptions where
  windowMs : ℚ
  maxRequests : ℚ
  keyPrefix : Option JsString

structure RedisRateLimiter where
  windowMs : Nat
  maxRequests : Nat
  keyPrefix : JsString
  windowMs_pos : 0 < windowMs
  maxRequests_pos : 0 < maxRequests

/-- A non-empty text without a NUL or a line break. -/
def isRateLimitKey (key : JsString) : Bool :=
  !key.isEmpty && !key.any fun u => u == 0x00 || u == 0x0D || u == 0x0A

namespace RedisRateLimiter

def new (options : RedisRateLimiterOptions) : Except JsError RedisRateLimiter :=
  if h : (options.windowMs.den = 1 ∧ 1 ≤ options.windowMs.num) ∧
      options.maxRequests.den = 1 ∧ 1 ≤ options.maxRequests.num then
    .ok {
      windowMs := options.windowMs.num.toNat
      maxRequests := options.maxRequests.num.toNat
      keyPrefix := options.keyPrefix.getD (js "x424:rate")
      windowMs_pos := Int.pos_iff_toNat_pos.mp h.1.2
      maxRequests_pos := Int.pos_iff_toNat_pos.mp h.2.2 }
  else .error ⟨js "Redis rate-limit window and maximum must be positive"⟩

variable (limiter : RedisRateLimiter)

def redisKey (key : JsString) : JsString := limiter.keyPrefix ++ js ":" ++ key

/-- `now` is the caller's time, `servedAt` the server's. -/
def consume (key : JsString) (now : ℚ) (servedAt : Instant) (db : RedisCounters) :
    Except JsError RateLimitResult × RedisCounters :=
  if !isRateLimitKey key then (.error ⟨js "Invalid Redis rate-limit key"⟩, db)
  else
    let reply := rateLimitScript servedAt (limiter.redisKey key) limiter.windowMs db
    let current := reply.1.1
    let ttl := max 0 reply.1.2
    (.ok ⟨decide (current ≤ limiter.maxRequests), limiter.maxRequests - current,
      Doubles.add now ttl⟩, reply.2)

end RedisRateLimiter

/-! ## Runs -/

structure RedisLimitEvent where
  key : JsString
  now : ℚ
  servedAt : Instant

structure RedisLimitCall where
  key : JsString
  now : ℚ
  servedAt : Instant
  result : RateLimitResult

structure RedisLimitState where
  db : RedisCounters
  log : List RedisLimitCall

def RedisLimitState.initial : RedisLimitState := ⟨fun _ => none, []⟩

namespace RedisRateLimiter

open FixedWindow

variable (limiter : RedisRateLimiter)

def limiterStep (s : RedisLimitState) (event : RedisLimitEvent) : Option RedisLimitState :=
  if s.log.head?.all fun call => decide (call.servedAt ≤ event.servedAt) then
    match limiter.consume event.key event.now event.servedAt s.db with
    | (.error _, db) => some { s with db := db }
    | (.ok result, db) => some ⟨db, ⟨event.key, event.now, event.servedAt, result⟩ :: s.log⟩
  else none

def machine : Machine RedisLimitState RedisLimitEvent := ⟨limiter.limiterStep⟩

def servedTimes (key : JsString) (log : List RedisLimitCall) : List Instant :=
  (log.filter fun call => decide (call.key = key)).map RedisLimitCall.servedAt

def allowedCalls (key : JsString) (log : List RedisLimitCall) : List Instant :=
  servedTimes key (log.filter fun call => call.result.allowed)

/-- A counter is there for `windowMs` and in the millisecond in which it expires. -/
def lifetime : Int := limiter.windowMs + 1

def fixedAnswer (times : List Instant) (now : ℚ) (servedAt : Instant) : RateLimitResult :=
  let current := used limiter.lifetime servedAt times + 1
  let opened := (openAt limiter.lifetime servedAt times).getD servedAt
  ⟨decide (current ≤ limiter.maxRequests), limiter.maxRequests - current,
    Doubles.add now ((opened + limiter.windowMs - servedAt : Int) : ℚ)⟩

abbrev Answered (log : List RedisLimitCall) : Prop :=
  EachAfter (fun earlier call => call.result =
    limiter.fixedAnswer (servedTimes call.key earlier) call.now call.servedAt) log

structure FixedWindowExact (events : List RedisLimitEvent) (s : RedisLimitState) : Prop where
  exact : ∀ {later call earlier}, s.log = later ++ call :: earlier →
    call.result = limiter.fixedAnswer (servedTimes call.key earlier) call.now call.servedAt
  /-- An interval of the length of a window holds fewer than twice the maximum. -/
  bounded : ∀ key t,
    (SlidingWindow.window limiter.lifetime t (allowedCalls key s.log)).length <
      2 * limiter.maxRequests
  /-- A retry before any other call for the key is allowed when `resetAt` has passed. -/
  retry : ∀ {later retry between denied earlier},
    s.log = later ++ retry :: (between ++ denied :: earlier) → denied.result.allowed = false →
    retry.key = denied.key → (∀ call ∈ between, call.key ≠ denied.key) →
    ∃ left : Int, 0 ≤ left ∧ left ≤ limiter.windowMs ∧
      denied.result.resetAt = Doubles.add denied.now left ∧
      (retry.result.allowed = true ↔ left < retry.servedAt - denied.servedAt)
  alone : ∀ key, ∃ t, limiter.machine.run .initial
      (events.filter fun event => decide (event.key = key)) = some t ∧
    t.log = s.log.filter fun call => decide (call.key = key)

/-! ## One call -/

section Call

variable {limiter} {db : RedisCounters} {key : JsString} {times : List Instant}
  {now servedAt later : Instant}

theorem lifetime_pos : 0 < limiter.lifetime := by
  have hpos := limiter.windowMs_pos
  unfold lifetime
  omega

theorem lt_lifetime {start : Instant} :
    now < start + limiter.lifetime ↔ now ≤ start + limiter.windowMs := by
  rw [lifetime, ← Int.add_assoc, Int.lt_add_one_iff]

/-- The counter that these calls leave, as it is found at `now`. -/
def counterAt (limiter : RedisRateLimiter) (now : Instant) (times : List Instant) :
    Option RedisCounter :=
  (openAt limiter.lifetime now times).map fun start =>
    ⟨times.countP fun time => decide (start ≤ time), some (start + limiter.windowMs)⟩

theorem counterAt_cons (horder : InOrder (now :: times)) (later : Instant) :
    counterAt limiter later (now :: times) =
      (some ⟨used limiter.lifetime now times + 1,
        some ((openAt limiter.lifetime now times).getD now + limiter.windowMs)⟩ :
          Option RedisCounter).filter (RedisCounter.live later) := by
  have hopened : openAt limiter.lifetime now (now :: times) =
      some ((openAt limiter.lifetime now times).getD now) := by
    refine openAt_eq_some.mpr ⟨opening_cons, ?_⟩
    cases hopen : openAt limiter.lifetime now times with
    | none => exact lt_add_of_pos_right now lifetime_pos
    | some start => exact (openAt_eq_some.mp hopen).2
  have hcount := used_cons (@lifetime_pos limiter) horder
  rw [used, hopened] at hcount
  rw [counterAt, openAt, opening_cons, ← hcount]
  have hlive := @lt_lifetime limiter later ((openAt limiter.lifetime now times).getD now)
  by_cases hopen : later < (openAt limiter.lifetime now times).getD now + limiter.lifetime
  · simp [Option.filter, RedisCounter.live, hopen, hlive.mp hopen]
  · have hpast := not_le.mp fun h => hopen (hlive.mpr h)
    simp [Option.filter, RedisCounter.live, hopen, hpast]

theorem rateLimitScript_eq (horder : InOrder times)
    (hfind : db.find now key = counterAt limiter now times) :
    rateLimitScript now key limiter.windowMs db =
      ((used limiter.lifetime now times + 1,
          (openAt limiter.lifetime now times).getD now + limiter.windowMs - now),
        Function.update db key (some ⟨used limiter.lifetime now times + 1,
          some ((openAt limiter.lifetime now times).getD now + limiter.windowMs)⟩)) := by
  cases hopen : openAt limiter.lifetime now times with
  | some start =>
      obtain ⟨hopening, hnow⟩ := openAt_eq_some.mp hopen
      have hlive := lt_lifetime.mp hnow
      have hcount : used limiter.lifetime now times =
          times.countP fun time => decide (start ≤ time) := by rw [used, hopen]
      have hpos : 0 < times.countP fun time => decide (start ≤ time) :=
        List.countP_pos_iff.mpr ⟨start, (opening_spec lifetime_pos horder hopening).1, by simp⟩
      rw [counterAt, hopen, Option.map_some] at hfind
      have hold : ¬ (times.countP fun time => decide (start ≤ time)) + 1 = 1 := by omega
      simp only [rateLimitScript, RedisCounters.incr_of_some hfind, hcount, if_neg hold,
        RedisCounters.pttl, RedisCounters.find_update, RedisCounter.live, Option.all_some,
        decide_eq_true hlive, if_true, Option.getD_some]
  | none =>
      have hcount : used limiter.lifetime now times = 0 := by rw [used, hopen]
      have hnow : now ≤ now + (limiter.windowMs : Int) :=
        Int.le_add_of_nonneg_right (Int.natCast_nonneg _)
      rw [counterAt, hopen, Option.map_none] at hfind
      simp only [rateLimitScript, RedisCounters.incr_of_none hfind, hcount, if_true, Nat.zero_add,
        RedisCounters.pexpire, RedisCounters.pttl, RedisCounters.find_update, RedisCounter.live,
        Option.all_none, Option.all_some, decide_eq_true hnow, Option.getD_none,
        Function.update_idem]

theorem left_bounds (horder : InOrder (now :: times)) :
    0 ≤ (openAt limiter.lifetime now times).getD now + limiter.windowMs - now ∧
      (openAt limiter.lifetime now times).getD now + limiter.windowMs - now ≤
        limiter.windowMs := by
  obtain ⟨hle, hearlier⟩ := List.pairwise_cons.mp horder
  cases hopen : openAt limiter.lifetime now times with
  | none =>
      rw [Option.getD_none, add_sub_cancel_left]
      exact ⟨Int.natCast_nonneg _, le_rfl⟩
  | some start =>
      obtain ⟨hopening, hnow⟩ := openAt_eq_some.mp hopen
      have hstart := hle start (opening_spec lifetime_pos hearlier hopening).1
      rw [Option.getD_some]
      exact ⟨Int.sub_nonneg_of_le (lt_lifetime.mp hnow),
        sub_le_iff_le_add'.mpr (Int.add_le_add_right hstart _)⟩

theorem consume_eq_answer (hkey : isRateLimitKey key = true)
    (horder : InOrder (servedAt :: times))
    (hfind : db.find servedAt (limiter.redisKey key) = counterAt limiter servedAt times)
    (askedAt : ℚ) :
    limiter.consume key askedAt servedAt db = (.ok (limiter.fixedAnswer times askedAt servedAt),
      Function.update db (limiter.redisKey key)
        (some ⟨used limiter.lifetime servedAt times + 1,
          some ((openAt limiter.lifetime servedAt times).getD servedAt +
            limiter.windowMs)⟩)) := by
  have hleft := (@left_bounds limiter _ _ horder).1
  simp only [consume, hkey, Bool.not_true, Bool.false_eq_true, if_false,
    rateLimitScript_eq (List.pairwise_cons.mp horder).2 hfind, fixedAnswer, max_eq_right hleft]

end Call

/-! ## The counters keep what the windows need -/

section Invariant

variable {limiter} {s s' : RedisLimitState} {event : RedisLimitEvent} {key : JsString}

structure LimiterInvariant (limiter : RedisRateLimiter) (s : RedisLimitState) : Prop where
  inOrder : s.log.Pairwise fun later earlier => earlier.servedAt ≤ later.servedAt
  answered : limiter.Answered s.log
  kept : ∀ key t, (∀ call ∈ s.log, call.servedAt ≤ t) →
    s.db.find t (limiter.redisKey key) = counterAt limiter t (servedTimes key s.log)

theorem servedTimes_inOrder {log : List RedisLimitCall}
    (h : log.Pairwise fun later earlier => earlier.servedAt ≤ later.servedAt) (key : JsString) :
    InOrder (servedTimes key log) :=
  List.pairwise_map.mpr (h.filter _)

theorem servedTimes_le {log : List RedisLimitCall} {t : Instant}
    (h : ∀ call ∈ log, call.servedAt ≤ t) : ∀ time ∈ servedTimes key log, time ≤ t := by
  intro time htime
  obtain ⟨call, hcall, rfl⟩ := List.mem_map.mp htime
  exact h call (List.mem_filter.mp hcall).1

theorem servedTimes_cons_same {log : List RedisLimitCall} {call : RedisLimitCall}
    (h : call.key = key) :
    servedTimes key (call :: log) = call.servedAt :: servedTimes key log := by
  rw [servedTimes, List.filter_cons_of_pos (by simpa using h)]
  rfl

theorem servedTimes_cons_of_ne {log : List RedisLimitCall} {call : RedisLimitCall}
    (h : call.key ≠ key) : servedTimes key (call :: log) = servedTimes key log := by
  rw [servedTimes, List.filter_cons_of_neg (by simpa using h)]
  rfl

theorem redisKey_inj {other : JsString} (h : limiter.redisKey key = limiter.redisKey other) :
    key = other :=
  List.append_cancel_left h

theorem LimiterInvariant.initial : LimiterInvariant limiter .initial :=
  ⟨List.Pairwise.nil, trivial, fun _ _ _ => rfl⟩

theorem served_le (h : s.log.Pairwise fun later earlier => earlier.servedAt ≤ later.servedAt)
    {t : Instant} (hhead : ∀ call ∈ s.log.head?, call.servedAt ≤ t) :
    ∀ call ∈ s.log, call.servedAt ≤ t := by
  cases hlog : s.log with
  | nil => exact List.forall_mem_nil _
  | cons first earlier =>
      rw [hlog] at h hhead
      have hfirst := hhead first rfl
      refine List.forall_mem_cons.mpr ⟨hfirst, fun call hcall => ?_⟩
      exact le_trans ((List.pairwise_cons.mp h).1 call hcall) hfirst

theorem limiterStep_cases (h : LimiterInvariant limiter s)
    (hstep : limiter.limiterStep s event = some s') :
    (∀ call ∈ s.log, call.servedAt ≤ event.servedAt) ∧
      ((isRateLimitKey event.key = false ∧ s' = s) ∨
        (isRateLimitKey event.key = true ∧
          s' = ⟨Function.update s.db (limiter.redisKey event.key)
              (some ⟨used limiter.lifetime event.servedAt (servedTimes event.key s.log) + 1,
                some ((openAt limiter.lifetime event.servedAt
                  (servedTimes event.key s.log)).getD event.servedAt + limiter.windowMs)⟩),
            ⟨event.key, event.now, event.servedAt,
              limiter.fixedAnswer (servedTimes event.key s.log) event.now event.servedAt⟩ ::
                s.log⟩)) := by
  rw [limiterStep, Option.ite_none_right_eq_some] at hstep
  obtain ⟨hclock, hstep⟩ := hstep
  have hhead : ∀ call ∈ s.log.head?, call.servedAt ≤ event.servedAt := by
    intro call hcall
    rw [Option.mem_def] at hcall
    simpa [hcall] using hclock
  have hle := served_le h.inOrder hhead
  refine ⟨hle, ?_⟩
  cases hkey : isRateLimitKey event.key with
  | false =>
      simp only [consume, hkey, Bool.not_false, if_true, Option.some.injEq] at hstep
      exact Or.inl ⟨rfl, hstep.symm⟩
  | true =>
      have horder : InOrder (event.servedAt :: servedTimes event.key s.log) :=
        List.pairwise_cons.mpr ⟨servedTimes_le hle, servedTimes_inOrder h.inOrder _⟩
      rw [consume_eq_answer hkey horder (h.kept event.key event.servedAt hle),
        Option.some.injEq] at hstep
      exact Or.inr ⟨rfl, hstep.symm⟩

theorem limiterStep_exists
    (h : (s.log.head?.all fun call => decide (call.servedAt ≤ event.servedAt)) = true) :
    ∃ t, limiter.limiterStep s event = some t := by
  rw [limiterStep, if_pos h]
  rcases limiter.consume event.key event.now event.servedAt s.db with ⟨_ | _, db⟩
  · exact ⟨_, rfl⟩
  · exact ⟨_, rfl⟩

theorem LimiterInvariant.step (h : LimiterInvariant limiter s)
    (hstep : limiter.limiterStep s event = some s') : LimiterInvariant limiter s' := by
  obtain ⟨hle, ⟨-, rfl⟩ | ⟨-, rfl⟩⟩ := limiterStep_cases h hstep
  · exact h
  · refine ⟨List.pairwise_cons.mpr ⟨hle, h.inOrder⟩, ⟨rfl, h.answered⟩, fun key t ht => ?_⟩
    by_cases hkey : event.key = key
    · subst hkey
      have horder : InOrder (event.servedAt :: servedTimes event.key s.log) :=
        List.pairwise_cons.mpr ⟨servedTimes_le hle, servedTimes_inOrder h.inOrder _⟩
      have hserved : servedTimes event.key (⟨event.key, event.now, event.servedAt,
          limiter.fixedAnswer (servedTimes event.key s.log) event.now event.servedAt⟩ :: s.log) =
            event.servedAt :: servedTimes event.key s.log := servedTimes_cons_same rfl
      dsimp only
      rw [hserved, counterAt_cons horder]
      exact RedisCounters.find_update
    · have hne : limiter.redisKey key ≠ limiter.redisKey event.key :=
        fun heq => hkey (redisKey_inj heq).symm
      have hserved : servedTimes key (⟨event.key, event.now, event.servedAt,
          limiter.fixedAnswer (servedTimes event.key s.log) event.now event.servedAt⟩ :: s.log) =
            servedTimes key s.log := servedTimes_cons_of_ne hkey
      dsimp only
      rw [hserved, RedisCounters.find_update_of_ne hne]
      exact h.kept key t (List.forall_mem_cons.mp ht).2

theorem LimiterInvariant.reached {events : List RedisLimitEvent}
    (hrun : limiter.machine.run .initial events = some s) : LimiterInvariant limiter s :=
  limiter.machine.invariant_run (fun _ _ _ h hstep => h.step hstep) .initial hrun

end Invariant

/-! ## What was answered -/

section Answers

variable {limiter} {log : List RedisLimitCall} {key : JsString}

theorem fixedAnswer_allowed {times : List Instant} {now : ℚ} {servedAt : Instant} :
    (limiter.fixedAnswer times now servedAt).allowed = true ↔
      used limiter.lifetime servedAt times < limiter.maxRequests := by
  rw [fixedAnswer, decide_eq_true_eq, Nat.add_one_le_iff]

theorem allowedCalls_eq (h : limiter.Answered log) :
    allowedCalls key log =
      admitted limiter.lifetime limiter.maxRequests (servedTimes key log) := by
  induction log with
  | nil => rfl
  | cons call earlier ih =>
      obtain ⟨hresult, hearlier⟩ := h
      have hallowed := @fixedAnswer_allowed limiter (servedTimes call.key earlier) call.now
        call.servedAt
      rw [← hresult] at hallowed
      by_cases hkey : call.key = key
      · subst hkey
        rw [servedTimes_cons_same rfl, admitted, allowedCalls, List.filter_cons]
        split_ifs with hcall hroom hroom
        · rw [servedTimes_cons_same rfl, ← ih hearlier]
          rfl
        · exact absurd (hallowed.mp hcall) hroom
        · exact absurd (hallowed.mpr hroom) hcall
        · exact ih hearlier
      · rw [servedTimes_cons_of_ne hkey, allowedCalls, List.filter_cons]
        split_ifs
        · rw [servedTimes_cons_of_ne hkey]
          exact ih hearlier
        · exact ih hearlier

theorem answered_retry_iff {later between earlier : List RedisLimitCall}
    {retry denied : RedisLimitCall}
    (h : limiter.Answered (later ++ retry :: (between ++ denied :: earlier)))
    (horder : InOrder (denied.servedAt :: servedTimes denied.key earlier))
    (hdenied : denied.result.allowed = false) (hkey : retry.key = denied.key)
    (hbetween : ∀ call ∈ between, call.key ≠ denied.key) :
    ∃ left : Int, 0 ≤ left ∧ left ≤ limiter.windowMs ∧
      denied.result.resetAt = Doubles.add denied.now left ∧
      (retry.result.allowed = true ↔ left < retry.servedAt - denied.servedAt) := by
  have hsame : servedTimes denied.key (between ++ denied :: earlier) =
      denied.servedAt :: servedTimes denied.key earlier := by
    have hnone : servedTimes denied.key between = [] := by
      rw [servedTimes, List.map_eq_nil_iff, List.filter_eq_nil_iff]
      simpa using hbetween
    rw [← servedTimes_cons_same rfl, ← List.nil_append (servedTimes denied.key (denied :: earlier)),
      ← hnone]
    simp only [servedTimes, List.filter_append, List.map_append]
  have hretry := h.at
  rw [hkey, hsame] at hretry
  rw [← List.cons_append, ← List.append_assoc] at h
  have hanswer := h.at
  have hfull : limiter.maxRequests ≤
      used limiter.lifetime denied.servedAt (servedTimes denied.key earlier) := by
    refine not_lt.mp fun hroom => ?_
    rw [hanswer, fixedAnswer_allowed.mpr hroom] at hdenied
    cases hdenied
  have hpos := limiter.maxRequests_pos
  cases hopen : openAt limiter.lifetime denied.servedAt (servedTimes denied.key earlier) with
  | none =>
      rw [used, hopen] at hfull
      exact absurd hfull (Nat.not_le.mpr hpos)
  | some start =>
      have hleft := @left_bounds limiter _ _ horder
      rw [hopen, Option.getD_some] at hleft
      refine ⟨_, hleft.1, hleft.2, ?_, ?_⟩
      · rw [hanswer, fixedAnswer, hopen, Option.getD_some]
      · have hopening := @opening_cons Int _ _ limiter.lifetime denied.servedAt
          (servedTimes denied.key earlier)
        rw [hopen, Option.getD_some] at hopening
        rw [hretry, fixedAnswer_allowed, Int.sub_lt_sub_right_iff]
        by_cases hlive : retry.servedAt < start + limiter.lifetime
        · have hsome := openAt_eq_some.mpr ⟨hopening, hlive⟩
          rw [used, hopen] at hfull
          rw [used, hsome]
          refine iff_of_false (Nat.not_lt.mpr (hfull.trans ?_)) (not_lt.mpr (lt_lifetime.mp hlive))
          exact (List.sublist_cons_self _ _).countP_le
        · have hnone : openAt limiter.lifetime retry.servedAt
              (denied.servedAt :: servedTimes denied.key earlier) = none := by
            rw [openAt, hopening, Option.filter_eq_none_iff]
            rintro _ ⟨⟩
            simpa using hlive
          rw [used, hnone]
          exact iff_of_true hpos (not_le.mp fun hle => hlive (lt_lifetime.mpr hle))

end Answers

/-! ## Calls for other keys -/

section Alone

variable {limiter} {s s' t : RedisLimitState} {event : RedisLimitEvent} {key : JsString}

/-- The state of a run with the calls for one key only. -/
structure SameFor (limiter : RedisRateLimiter) (key : JsString) (s t : RedisLimitState) :
    Prop where
  reached : LimiterInvariant limiter s
  alone : LimiterInvariant limiter t
  log : t.log = s.log.filter fun call => decide (call.key = key)

theorem servedTimes_filter (log : List RedisLimitCall) :
    servedTimes key (log.filter fun call => decide (call.key = key)) = servedTimes key log := by
  rw [servedTimes, List.filter_filter, servedTimes]
  simp

theorem SameFor.kept (h : SameFor limiter key s t) (hkey : event.key = key)
    (hstep : limiter.limiterStep s event = some s') :
    ∃ t', limiter.limiterStep t event = some t' ∧ SameFor limiter key s' t' := by
  subst hkey
  obtain ⟨hle, hcases⟩ := limiterStep_cases h.reached hstep
  have hclock : (t.log.head?.all fun call => decide (call.servedAt ≤ event.servedAt)) = true := by
    rw [Option.all_eq_true]
    intro call hcall
    have hmem : call ∈ t.log := List.mem_of_mem_head? hcall
    rw [h.log] at hmem
    exact decide_eq_true (hle call (List.mem_filter.mp hmem).1)
  obtain ⟨t', ht'⟩ := limiterStep_exists hclock
  refine ⟨t', ht', h.reached.step hstep, h.alone.step ht', ?_⟩
  obtain ⟨-, hcases'⟩ := limiterStep_cases h.alone ht'
  rcases hcases with ⟨hinvalid, rfl⟩ | ⟨hvalid, rfl⟩
  · rcases hcases' with ⟨-, rfl⟩ | ⟨hother, -⟩
    · exact h.log
    · rw [hinvalid] at hother
      cases hother
  · rcases hcases' with ⟨hother, -⟩ | ⟨-, rfl⟩
    · rw [hvalid] at hother
      cases hother
    · dsimp only
      rw [h.log, servedTimes_filter, List.filter_cons_of_pos (by simp)]

theorem SameFor.dropped (h : SameFor limiter key s t) (hkey : event.key ≠ key)
    (hstep : limiter.limiterStep s event = some s') : SameFor limiter key s' t := by
  refine ⟨h.reached.step hstep, h.alone, ?_⟩
  obtain ⟨-, ⟨-, rfl⟩ | ⟨-, rfl⟩⟩ := limiterStep_cases h.reached hstep
  · exact h.log
  · rw [h.log, List.filter_cons_of_neg (by simpa using hkey)]

end Alone

theorem LimiterInvariant.bounded {s : RedisLimitState} (h : LimiterInvariant limiter s)
    (key : JsString) (t : Instant) :
    (SlidingWindow.window limiter.lifetime t (allowedCalls key s.log)).length <
      2 * limiter.maxRequests := by
  rw [allowedCalls_eq h.answered]
  exact length_window_admitted_lt lifetime_pos limiter.maxRequests_pos
    (servedTimes_inOrder h.inOrder key) t

/-- `RedisRateLimiter` counts the calls of fixed windows. -/
theorem redisLimiter_exact {events : List RedisLimitEvent} {s : RedisLimitState}
    (hrun : limiter.machine.run .initial events = some s) :
    limiter.FixedWindowExact events s := by
  have hfinal := LimiterInvariant.reached hrun
  refine ⟨fun hlog => (hlog ▸ hfinal.answered).at, hfinal.bounded,
    fun {later retry between denied earlier} hlog => ?_, fun key => ?_⟩
  · have hanswered := hfinal.answered
    have horder := hfinal.inOrder
    rw [hlog] at hanswered horder
    refine answered_retry_iff hanswered ?_
    rw [← servedTimes_cons_same rfl]
    rw [← List.cons_append, ← List.append_assoc] at horder
    exact servedTimes_inOrder (List.pairwise_append.mp horder).2.1 denied.key
  · obtain ⟨t, ht, hsame⟩ := limiter.machine.run_filter (R := SameFor limiter key)
      (fun h _ hkeep hstep => h.kept (of_decide_eq_true hkeep) hstep)
      (fun h _ hkeep hstep => h.dropped (of_decide_eq_false hkeep) hstep)
      ⟨.initial, .initial, rfl⟩ (limiter.machine.along_true _ _) hrun
    exact ⟨t, ht, hsame.log⟩

def oneCallLimiter : RedisRateLimiter where
  windowMs := 1000
  maxRequests := 1
  keyPrefix := js "x424:rate"
  windowMs_pos := by decide
  maxRequests_pos := by decide

def twoCalls : List RedisLimitEvent := [⟨js "caller", 0, 0⟩, ⟨js "caller", 999, 999⟩]

theorem redisLimiter_exact_twoCalls : ∃ s,
    oneCallLimiter.machine.run .initial twoCalls = some s ∧
      oneCallLimiter.FixedWindowExact twoCalls s := by
  have hsome : (oneCallLimiter.machine.run .initial twoCalls).isSome = true := by decide +kernel
  obtain ⟨s, hrun⟩ := Option.isSome_iff_exists.mp hsome
  exact ⟨s, hrun, redisLimiter_exact oneCallLimiter hrun⟩

/-! ## A burst over the end of a window -/

section Burst

variable {limiter} {key : JsString}

theorem run_inOrder (hkey : isRateLimitKey key = true) {times : List Instant}
    (horder : InOrder times) : ∃ events s, limiter.machine.run .initial events = some s ∧
      servedTimes key s.log = times ∧ s.log.map RedisLimitCall.servedAt = times := by
  induction times with
  | nil => exact ⟨[], .initial, rfl, rfl, rfl⟩
  | cons now earlier ih =>
      obtain ⟨hle, hearlier⟩ := List.pairwise_cons.mp horder
      obtain ⟨events, s, hrun, hserved, htimes⟩ := ih hearlier
      have hclock : (s.log.head?.all fun call => decide (call.servedAt ≤ now)) = true := by
        rw [Option.all_eq_true]
        intro call hcall
        refine decide_eq_true (hle call.servedAt ?_)
        rw [← htimes]
        exact List.mem_map_of_mem (List.mem_of_mem_head? hcall)
      obtain ⟨s', hstep⟩ := @limiterStep_exists limiter s ⟨key, 0, now⟩ hclock
      refine ⟨events ++ [⟨key, 0, now⟩], s', ?_, ?_⟩
      · rw [Machine.run_append, hrun]
        exact (limiter.machine.run_cons_some).mpr ⟨s', hstep, rfl⟩
      · obtain ⟨-, ⟨hinvalid, -⟩ | ⟨-, rfl⟩⟩ := limiterStep_cases (.reached hrun) hstep
        · rw [hkey] at hinvalid
          cases hinvalid
        · exact ⟨(servedTimes_cons_same rfl).trans (congrArg (now :: ·) hserved),
            congrArg (now :: ·) htimes⟩

def burstTimes (lifetime : Int) (maxRequests : Nat) : List Instant :=
  List.replicate maxRequests lifetime ++
    (List.replicate (maxRequests - 1) (lifetime - 1) ++ (List.replicate 1 0 ++ []))

theorem burst_admitted :
    InOrder (burstTimes limiter.lifetime limiter.maxRequests) ∧
      admitted limiter.lifetime limiter.maxRequests
          (burstTimes limiter.lifetime limiter.maxRequests) =
        burstTimes limiter.lifetime limiter.maxRequests := by
  have hmax := limiter.maxRequests_pos
  have hw := @lifetime_pos limiter
  have hend : (0 : Int) ≤ limiter.lifetime - 1 := by omega
  have hstart : opening limiter.lifetime (List.replicate 1 (0 : Int) ++ []) = some 0 := rfl
  have hopen : openAt limiter.lifetime (limiter.lifetime - 1)
      (List.replicate 1 (0 : Int) ++ []) = some 0 :=
    openAt_eq_some.mpr ⟨hstart, by omega⟩
  have hnone : openAt limiter.lifetime limiter.lifetime
      (List.replicate (limiter.maxRequests - 1) (limiter.lifetime - 1) ++
        (List.replicate 1 (0 : Int) ++ [])) = none := by
    rw [openAt, opening_replicate hopen]
    simp [Option.filter]
  have hle : ∀ time ∈ List.replicate 1 (0 : Int) ++ [], time ≤ limiter.lifetime - 1 := by
    intro time htime
    rw [List.append_nil] at htime
    rw [List.eq_of_mem_replicate htime]
    exact hend
  have hused : used limiter.lifetime (limiter.lifetime - 1)
      (List.replicate 1 (0 : Int) ++ []) = 1 := by
    rw [used, hopen]
    rfl
  have hused' : used limiter.lifetime limiter.lifetime
      (List.replicate (limiter.maxRequests - 1) (limiter.lifetime - 1) ++
        (List.replicate 1 (0 : Int) ++ [])) = 0 := by
    rw [used, hnone]
  obtain ⟨hfirst, -, horder⟩ := @admitted_replicate Int _ _ limiter.lifetime 0 []
    limiter.maxRequests _ hw List.Pairwise.nil (List.forall_mem_nil _) 1 hmax
  obtain ⟨hlate, -, horder'⟩ := @admitted_replicate Int _ _ limiter.lifetime
    (limiter.lifetime - 1) _ limiter.maxRequests _ hw horder hle (limiter.maxRequests - 1)
    (by omega)
  have hle' : ∀ time ∈ List.replicate (limiter.maxRequests - 1) (limiter.lifetime - 1) ++
      (List.replicate 1 (0 : Int) ++ []), time ≤ limiter.lifetime := by
    intro time htime
    rcases List.mem_append.mp htime with hsame | hold
    · rw [List.eq_of_mem_replicate hsame]
      omega
    · have := hle time hold
      omega
  obtain ⟨hafter, -, horder''⟩ := @admitted_replicate Int _ _ limiter.lifetime
    limiter.lifetime _ limiter.maxRequests _ hw horder' hle' limiter.maxRequests (by omega)
  refine ⟨horder'', ?_⟩
  rw [burstTimes, hafter, hlate, hfirst]
  rfl

/-- Of these calls only the first does not lie in an interval of the length of a window. -/
theorem burst_window (hwindow : 2 ≤ limiter.windowMs) :
    (SlidingWindow.window (limiter.windowMs : Int) limiter.lifetime
      (burstTimes limiter.lifetime limiter.maxRequests)).length =
        2 * limiter.maxRequests - 1 := by
  have hmax := limiter.maxRequests_pos
  have hlate : 1 < limiter.windowMs := by omega
  simp [SlidingWindow.window, burstTimes, List.filter_append, lifetime, hlate,
    limiter.windowMs_pos]
  omega

/-- What an interval of the length of a window can hold. -/
theorem redisLimiter_burst (hkey : isRateLimitKey key = true) (hwindow : 2 ≤ limiter.windowMs) :
    IsGreatest {n | ∃ events s t, limiter.machine.run .initial events = some s ∧
      (SlidingWindow.window (limiter.windowMs : Int) t (allowedCalls key s.log)).length = n}
      (2 * limiter.maxRequests - 1) := by
  constructor
  · obtain ⟨horder, hadmitted⟩ := @burst_admitted limiter
    obtain ⟨events, s, hrun, hserved, -⟩ := @run_inOrder limiter key hkey _ horder
    refine ⟨events, s, limiter.lifetime, hrun, ?_⟩
    rw [allowedCalls_eq (LimiterInvariant.reached hrun).answered, hserved, hadmitted]
    exact burst_window hwindow
  · rintro _ ⟨events, s, t, hrun, rfl⟩
    have hle : (limiter.windowMs : Int) ≤ limiter.lifetime := Int.le_add_one le_rfl
    refine Nat.le_sub_one_of_lt (lt_of_le_of_lt ?_
      ((LimiterInvariant.reached hrun).bounded limiter key t))
    exact SlidingWindow.length_window_mono hle t _

theorem redisLimiter_burst_caller :
    IsGreatest {n | ∃ events s t, oneCallLimiter.machine.run .initial events = some s ∧
      (SlidingWindow.window 1000 t (allowedCalls (js "caller") s.log)).length = n} 1 :=
  @redisLimiter_burst oneCallLimiter (js "caller") (by decide) (by decide)

end Burst

end RedisRateLimiter

end X424
