import X424.Handoff.Document
import X424.Handoff.Invariant

/-!
# Records that can be read back

Which of the records that the handoff service writes a durable store can read
again: all of them, as long as the intervals that the providers ask for are
whole.
-/

namespace X424

open Foundation

/-! ## Intervals -/

/-- A whole number, or one that `start` moves to a bound. -/
def JsDouble.Whole : JsDouble → Prop
  | nan => False
  | infinity _ => True
  | finite value => value.den = 1 ∨ value ≤ 500 ∨ 10000 ≤ value

theorem exists_nat_of_den {value : ℚ} (hden : value.den = 1) (hlow : 500 ≤ value) :
    ∃ n : ℕ, value = n := by
  have hwhole : value = value.num := (Rat.coe_int_num_of_den_eq_one hden).symm
  have hpos : 0 ≤ value.num := Rat.num_nonneg.mpr (le_trans (by norm_num) hlow)
  refine ⟨value.num.toNat, ?_⟩
  rw [hwhole]
  exact_mod_cast (Int.toNat_of_nonneg hpos).symm

theorem whole_iff {interval : JsDouble} :
    interval.Whole ↔
      ∃ n : ℕ, interval.clamp 500 10000 = some (n : ℚ) ∧ 500 ≤ n ∧ n ≤ 10000 := by
  cases interval with
  | nan => simp [JsDouble.Whole, JsDouble.clamp]
  | infinity negative =>
      cases negative with
      | true => exact iff_of_true trivial ⟨500, by norm_num [JsDouble.clamp, mathMax], by decide⟩
      | false =>
          exact iff_of_true trivial ⟨10000, by norm_num [JsDouble.clamp, mathMax], by decide⟩
  | finite value =>
      simp only [JsDouble.Whole, JsDouble.clamp, mathMax, mathMin, Option.map_some,
        Option.some.injEq]
      rcases le_total value 500 with hlow | hlow
      · refine iff_of_true (.inr (.inl hlow)) ⟨500, ?_, by decide⟩
        rw [min_eq_right (hlow.trans (by norm_num)), max_eq_left hlow]
        norm_num
      rcases le_total 10000 value with hhigh | hhigh
      · refine iff_of_true (.inr (.inr hhigh)) ⟨10000, ?_, by decide⟩
        rw [min_eq_left hhigh]
        norm_num
      rw [min_eq_right hhigh, max_eq_right hlow]
      constructor
      · intro hwhole
        rcases hwhole with hden | hbound | hbound
        · obtain ⟨n, rfl⟩ := exists_nat_of_den hden hlow
          exact ⟨n, rfl, by exact_mod_cast hlow, by exact_mod_cast hhigh⟩
        · exact ⟨500, by norm_num [le_antisymm hbound hlow], by decide⟩
        · exact ⟨10000, by norm_num [le_antisymm hhigh hbound], by decide⟩
      · rintro ⟨n, rfl, -⟩
        exact .inl (Rat.den_natCast n)

theorem whole_default : (JsDouble.finite 1000).Whole := Or.inl rfl

def StartedProviderHandoff.WholeInterval (started : StartedProviderHandoff) : Prop :=
  ∀ interval ∈ started.pollAfterMs, interval.Whole

/-! ## Sound records -/

structure StoredHumanHandoff.Sound (record : StoredHumanHandoff) : Prop where
  expiresAt : IsDate record.expiresAt
  pollClaimExpiresAt : ∀ lease ∈ record.pollClaimExpiresAt, IsDate lease
  pollAfterMs : ∃ n : ℕ, record.pollAfterMs = some (n : ℚ) ∧ 500 ≤ n ∧ n ≤ 10000
  version : 1 ≤ record.version

namespace StoredHumanHandoff.Sound

variable {record next : StoredHumanHandoff} {numbers : JsNumbers} {dates : JsDates}

theorem parses (h : record.Sound) : parseStoredHumanHandoff record = .ok record := by
  obtain ⟨n, hpoll, hlow, hhigh⟩ := h.pollAfterMs
  have hversion := h.version
  have hlow' : ¬ (n : ℚ) < 500 := not_lt.mpr (by exact_mod_cast hlow)
  have hhigh' : ¬ 10000 < (n : ℚ) := not_lt.mpr (by exact_mod_cast hhigh)
  simp only [parseStoredHumanHandoff, hpoll]
  refine if_neg ?_
  rintro (hden | hbound | hbound | hbound)
  · exact hden (Rat.den_natCast n)
  · exact hlow' hbound
  · exact hhigh' hbound
  · omega

theorem representable (h : record.Sound) (hversion : record.version ≤ 2 ^ 53) :
    record.Representable numbers := by
  refine ⟨h.expiresAt, h.pollClaimExpiresAt, fun interval hinterval => ?_, hversion⟩
  obtain ⟨n, hpoll, -, hhigh⟩ := h.pollAfterMs
  rw [hpoll, Option.mem_def, Option.some.injEq] at hinterval
  rw [← hinterval]
  exact numbers.isDouble_nat n (hhigh.trans (by norm_num))

theorem roundTrips (h : record.Sound) (hversion : record.version ≤ 2 ^ 53) :
    record.RoundTrips numbers dates :=
  (roundTrips_iff (h.representable hversion)).mpr h.parses

theorem succeeds (h : record.Sound) (hnext : record.Succeeds next)
    (hlease : ∀ lease ∈ next.pollClaimExpiresAt, IsDate lease) : next.Sound where
  expiresAt := by
    rw [expiresAt_eq hnext.identity]
    exact h.expiresAt
  pollClaimExpiresAt := hlease
  pollAfterMs := by
    rw [pollAfterMs_eq hnext.identity]
    exact h.pollAfterMs
  version := by
    rw [hnext.version]
    exact Nat.le_add_left 1 _

theorem claim {now : Instant} (h : record.Sound) (hnow : IsDate now)
    (hclaim : record.claim now = .ok next) : next.Sound := by
  obtain ⟨lease, hlease, rfl⟩ := claim_eq_ok.mp hclaim
  refine h.succeeds ⟨rfl, rfl⟩ fun found hfound => ?_
  cases hfound
  obtain ⟨n, hpoll, -, -⟩ := h.pollAfterMs
  have hwhole : min (record.expiresAt : ℚ) (now + max 10000 ((n : ℚ) * 3)) =
      ((min record.expiresAt (now + max 10000 ((n : ℤ) * 3)) : ℤ) : ℚ) := by
    push_cast
    rfl
  have htime : lease = min record.expiresAt (now + max 10000 ((n : ℤ) * 3)) := by
    simp only [claimExpiry, hpoll, mathMax, Option.map_some, Option.some.injEq] at hlease
    rw [← hlease, hwhole, dateTime, Rat.num_intCast, Rat.den_intCast]
    exact Int.tdiv_one _
  have hlate : -maximumTime ≤ now + max 10000 ((n : ℤ) * 3) := by
    have hpositive := le_max_left (10000 : ℤ) ((n : ℤ) * 3)
    have hearliest := hnow.1
    omega
  rw [htime]
  exact ⟨le_min h.expiresAt.1 hlate, (min_le_left _ _).trans h.expiresAt.2⟩

end StoredHumanHandoff.Sound

/-! ## Records of `start` -/

section Start

variable {found : HumanRequirement} {input : StartHumanHandoffInput}
  {started : StartedProviderHandoff} {handoffId accessTokenDigest : JsString}
  {expiresAt : Instant} {numbers : JsNumbers} {dates : JsDates}

theorem startRecord_sound (hexpiresAt : IsDate expiresAt) (hwhole : started.WholeInterval) :
    (startRecord found input started handoffId accessTokenDigest expiresAt).Sound where
  expiresAt := hexpiresAt
  pollClaimExpiresAt _ h := nomatch h
  pollAfterMs := by
    cases hinterval : started.pollAfterMs with
    | none =>
        rw [startRecord, hinterval]
        exact whole_iff.mp whole_default
    | some interval =>
        rw [startRecord, hinterval]
        exact whole_iff.mp (hwhole interval hinterval)
  version := Nat.le_refl 1

def StartedProviderHandoff.Numeric (numbers : JsNumbers) (started : StartedProviderHandoff) :
    Prop :=
  ∀ value, started.pollAfterMs = some (.finite value) → numbers.IsDouble value

theorem isDouble_clamp {value bounded : ℚ} (hvalue : numbers.IsDouble value)
    (hbounded : (JsDouble.finite value).clamp 500 10000 = some bounded) :
    numbers.IsDouble bounded := by
  simp only [JsDouble.clamp, mathMax, mathMin, Option.map_some, Option.some.injEq] at hbounded
  rw [← hbounded]
  rcases max_choice 500 (min 10000 value) with hmax | hmax <;> rw [hmax]
  · exact numbers.isDouble_nat 500 (by norm_num)
  · rcases min_choice 10000 value with hmin | hmin <;> rw [hmin]
    · exact numbers.isDouble_nat 10000 (by norm_num)
    · exact hvalue

theorem startRecord_representable (hexpiresAt : IsDate expiresAt)
    (hnumeric : started.Numeric numbers) :
    (startRecord found input started handoffId accessTokenDigest expiresAt).Representable
      numbers where
  expiresAt := hexpiresAt
  pollClaimExpiresAt _ h := nomatch h
  pollAfterMs bounded hbounded := by
    simp only [startRecord, Option.mem_def] at hbounded
    have hwhole : ∀ interval : JsDouble, interval.Whole →
        interval.clamp 500 10000 = some bounded → numbers.IsDouble bounded := by
      intro interval hinterval heq
      obtain ⟨n, hclamp, -, hhigh⟩ := whole_iff.mp hinterval
      cases heq.symm.trans hclamp
      exact numbers.isDouble_nat n (hhigh.trans (by norm_num))
    cases hinterval : started.pollAfterMs with
    | none =>
        rw [hinterval] at hbounded
        exact hwhole _ whole_default hbounded
    | some interval =>
        rw [hinterval, Option.getD_some] at hbounded
        cases interval with
        | nan => cases hbounded
        | infinity negative => exact hwhole (.infinity negative) trivial hbounded
        | finite value => exact isDouble_clamp (hnumeric value hinterval) hbounded
  version := by norm_num [startRecord]

/-- A record of `start` that can be read back has a whole interval. -/
theorem wholeInterval_of_roundTrips (hexpiresAt : IsDate expiresAt)
    (hnumeric : started.Numeric numbers)
    (h : (startRecord found input started handoffId accessTokenDigest expiresAt).RoundTrips
      numbers dates) : started.WholeInterval := by
  intro interval hinterval
  have hparsed := (roundTrips_iff (startRecord_representable hexpiresAt hnumeric)).mp h
  have hpoll : (startRecord found input started handoffId accessTokenDigest expiresAt).pollAfterMs =
      interval.clamp 500 10000 := by
    rw [startRecord, hinterval, Option.getD_some]
  rw [whole_iff]
  unfold parseStoredHumanHandoff at hparsed
  rw [hpoll] at hparsed
  cases hclamp : interval.clamp 500 10000 with
  | none => simp [hclamp] at hparsed
  | some bounded =>
      simp only [hclamp] at hparsed
      split_ifs at hparsed with hbad
      simp only [not_or, not_not, not_lt] at hbad
      obtain ⟨hden, hlow, hhigh, -⟩ := hbad
      obtain ⟨n, rfl⟩ := exists_nat_of_den hden hlow
      exact ⟨n, rfl, by exact_mod_cast hlow, by exact_mod_cast hhigh⟩

end Start

/-! ## Leases of the records that a worker writes -/

/-- A write makes a claim or takes no other lease than the one before. -/
def KeepsLease (now : Instant) (previous next : StoredHumanHandoff) : Prop :=
  previous.claim now = .ok next ∨
    ∀ lease ∈ next.pollClaimExpiresAt, lease ∈ previous.pollClaimExpiresAt

def Phase.Leased (now : Instant) : Phase → Prop
  | updating _ previous next _ => KeepsLease now previous next
  | idle | reading _ _ _ _ | read _ _ _ _ _ | updated _ _ _ _ | cancelling _ | polling _
  | lookingUp _ | satisfying _ | protecting _ _ | done _ _ _ => True

section Leases

variable {service : HumanHandoffService} {now : Instant} {record previous next : StoredHumanHandoff}

namespace HumanHandoffService

theorem failClaimed_leased (claimed : StoredHumanHandoff) (code : JsString) :
    (failClaimed claimed code now).Leased now := .inr fun _ hlease => hlease

theorem claimCurrent_leased : (claimCurrent record now).Leased now := by
  unfold claimCurrent
  cases hclaim : record.claim now with
  | error error => trivial
  | ok claimed => exact .inl hclaim

theorem authorized_leased (call : HandoffCall) :
    (service.authorized call record now).Leased now := by
  cases call with
  | cancel =>
      simp only [authorized, cancelAuthorized]
      split_ifs <;> trivial
  | poll =>
      simp only [authorized, pollAuthorized]
      cases record.terminalView service.unprotect with
      | error error => trivial
      | ok view =>
          cases view with
          | some view => trivial
          | none =>
              simp only
              split_ifs
              · trivial
              · exact .inr fun _ hlease => nomatch hlease
              · exact claimCurrent_leased

theorem afterRead_leased (call : HandoffCall) (handoffId accessTokenDigest : JsString)
    (checkedAt : Instant) (fetched : Fetched) :
    (service.afterRead call handoffId accessTokenDigest checkedAt fetched now).Leased now := by
  cases fetched with
  | unknown => cases call <;> trivial
  | found record => exact authorized_leased call
  | expired record => exact authorized_leased call
  | expiring record => exact .inr fun _ hlease => hlease
  | failed error => trivial

theorem afterUpdate_leased (task : UpdateTask) (reply : Except JsError Bool) :
    (service.afterUpdate task previous next reply now).Leased now := by
  cases task with
  | expire call handoffId accessTokenDigest checkedAt =>
      rcases reply with error | (_ | _)
      · trivial
      · trivial
      · exact authorized_leased call
  | reclaim =>
      rcases reply with error | (_ | _)
      · trivial
      · trivial
      · exact claimCurrent_leased
  | claim =>
      rcases reply with error | (_ | _)
      · trivial
      · trivial
      · simp only [afterUpdate]
        split_ifs
        · trivial
        · exact failClaimed_leased _ _
  | release =>
      rcases reply with error | updated
      · exact failClaimed_leased _ _
      · trivial
  | complete token =>
      rcases reply with error | (_ | _)
      · exact failClaimed_leased _ _
      · exact failClaimed_leased _ _
      · trivial
  | fail => cases reply <;> trivial
  | cancel => cases reply <;> trivial

end HumanHandoffService

open HumanHandoffService in
theorem Moves.leased {before after : Phase} (h : Moves service now before after) :
    after.Leased now := by
  cases h with
  | call => trivial
  | read => exact afterRead_leased _ _ _ _ _
  | updated => exact afterUpdate_leased _ _
  | cancel => exact .inr fun _ hlease => hlease
  | provider claimed answer =>
      cases answer with
      | threw => exact failClaimed_leased _ _
      | pending => exact .inr fun _ hlease => nomatch hlease
      | failed code => exact failClaimed_leased _ _
      | completed => trivial
  | requirement claimed found =>
      rcases found with _ | (_ | _)
      · exact failClaimed_leased _ _
      · exact failClaimed_leased _ _
      · trivial
  | unsatisfied => exact failClaimed_leased _ _
  | protect claimed token completion =>
      cases completion with
      | none => exact failClaimed_leased _ _
      | some text => exact .inr fun _ hlease => hlease

end Leases

/-! ## Runs -/

/-- The clock, and what `Date.parse` gives, are times of dates; numbers can be held. -/
def HandoffEvent.Genuine {ι : Type} (numbers : JsNumbers) : HandoffEvent ι → Prop
  | tick time => IsDate time
  | start wanted _ started _ _ _ _ =>
      (∀ found ∈ wanted, ∀ expiresAt ∈ found.expiresAt, IsDate expiresAt) ∧
        (∀ expiresAt ∈ started.expiresAt, IsDate expiresAt) ∧ started.Numeric numbers
  | call _ _ _ _ | execute _ | resume _ | provider _ _ | requirement _ _ | satisfy _ _
  | protect _ _ => True

section Runs

variable {ι σ : Type} (service : HumanHandoffService) (store : HandoffStore σ)

/-- The records that an event passes to the store; a record that `create` refuses is none. -/
def HandoffState.passed (s : HandoffState ι σ) : HandoffEvent ι → List StoredHumanHandoff
  | .start requirement input started handoffId accessTokenDigest checkedAt sentAt =>
      match service.start requirement input started handoffId accessTokenDigest checkedAt with
      | .error _ => []
      | .ok record =>
          if (store.create record sentAt s.now s.store).1 = .ok true then [record] else []
  | .execute i =>
      match s.phase i with
      | .reading _ handoffId accessTokenDigest checkedAt =>
          (store.fetch handoffId accessTokenDigest checkedAt s.now s.store).1.written
      | .updating _ previous next _ => [previous, next]
      | _ => []
  | _ => []

/-- What the event passes to the store can be read back, and what it reads can be read.
JSON keeps the versions up to 2^53 exactly, and JavaScript counts no further. -/
structure StepReadsBack (numbers : JsNumbers) (dates : JsDates) (s : HandoffState ι σ)
    (event : HandoffEvent ι) : Prop where
  passed : ∀ record ∈ s.passed service store event, record.version ≤ 2 ^ 53 →
    record.RoundTrips numbers dates
  read : ∀ {i call handoffId accessTokenDigest checkedAt}, event = .execute i →
    s.phase i = .reading call handoffId accessTokenDigest checkedAt →
    ∀ error, (store.fetch handoffId accessTokenDigest checkedAt s.now s.store).1 ≠ .failed error

/-- A provider whose answer `start` does not reject asks for a whole interval. -/
def StartsWhole (s : HandoffState ι σ) (event : HandoffEvent ι) : Prop :=
  ∀ requirement input started handoffId accessTokenDigest checkedAt sentAt record,
    event = .start requirement input started handoffId accessTokenDigest checkedAt sentAt →
    service.start requirement input started handoffId accessTokenDigest checkedAt = .ok record →
    (store.create record sentAt s.now s.store).1 = .ok true → started.WholeInterval

structure HandoffState.Sound (s : HandoffState ι σ) : Prop where
  now : IsDate s.now
  log : ∀ record ∈ s.log, record.Sound
  leased : ∀ i, ∃ time, IsDate time ∧ (s.phase i).Leased time

variable {service store} {strict : Bool} {valid : Instant → σ → Prop} {s t : HandoffState ι σ}
  {numbers : JsNumbers} {dates : JsDates}

theorem start_isDate {requirement : Option HumanRequirement} {input : StartHumanHandoffInput}
    {started : StartedProviderHandoff} {handoffId accessTokenDigest : JsString}
    {checkedAt sentAt : Instant} {record : StoredHumanHandoff}
    (hgenuine : (HandoffEvent.start (ι := ι) requirement input started handoffId accessTokenDigest
      checkedAt sentAt).Genuine numbers)
    (hstart : service.start requirement input started handoffId accessTokenDigest checkedAt =
      .ok record) :
    ∃ found expiresAt, IsDate expiresAt ∧
      record = startRecord found input started handoffId accessTokenDigest expiresAt := by
  obtain ⟨found, requirementExpiry, providerExpiry, hfound, hrequirement, hprovider, -, rfl⟩ :=
    start_eq_ok hstart
  obtain ⟨hrequirements, hproviders, -⟩ := hgenuine
  have hfirst := hrequirements found hfound requirementExpiry hrequirement
  have hsecond := hproviders providerExpiry hprovider
  refine ⟨found, _, ?_, rfl⟩
  exact ⟨le_min hfirst.1 hsecond.1, (min_le_left _ _).trans hfirst.2⟩

namespace HandoffState.Sound

theorem setPhase [DecidableEq ι] (h : s.Sound) {i : ι} {phase : Phase}
    (hphase : ∃ time, IsDate time ∧ phase.Leased time) : (s.setPhase i phase).Sound := by
  refine ⟨h.now, h.log, fun j => ?_⟩
  by_cases hj : j = i
  · subst hj
    simpa only [HandoffState.setPhase_self] using hphase
  · simpa only [s.setPhase_of_ne phase hj] using h.leased j

theorem updating (h : s.Sound) (hinvariant : HandoffInvariant service store strict valid s) {i : ι}
    {task : UpdateTask} {previous next : StoredHumanHandoff} {checkedAt : Instant}
    (hphase : s.phase i = .updating task previous next checkedAt) :
    previous.Sound ∧ next.Sound := by
  have hok := hinvariant.phases i
  have hleased := h.leased i
  rw [hphase] at hok hleased
  have hprevious := h.log previous hok.held.logged
  obtain ⟨time, htime, hclaim | hlease⟩ := hleased
  · exact ⟨hprevious, hprevious.claim htime hclaim⟩
  · exact ⟨hprevious, hprevious.succeeds hok.succeeds fun lease hnext =>
      hprevious.pollClaimExpiresAt lease (hlease lease hnext)⟩

theorem fetched (hstore : KeepsHandoffs store strict valid) (h : s.Sound)
    (hinvariant : HandoffInvariant service store strict valid s)
    (handoffId accessTokenDigest : JsString) (checkedAt : Instant) :
    (∀ record ∈ (store.fetch handoffId accessTokenDigest checkedAt s.now s.store).1.written,
        record.Sound) ∧
      ∀ error, (store.fetch handoffId accessTokenDigest checkedAt s.now s.store).1 ≠
        .failed error := by
  obtain ⟨-, hfetch⟩ := hstore.fetch handoffId accessTokenDigest checkedAt hinvariant.valid
  obtain ⟨fetched, after, hreply⟩ :
      ∃ fetched after, store.fetch handoffId accessTokenDigest checkedAt s.now s.store =
        (fetched, after) := ⟨_, _, rfl⟩
  rw [hreply] at hfetch ⊢
  cases fetched with
  | unknown | found _ | expiring _ =>
      exact ⟨fun _ hmem => absurd hmem List.not_mem_nil, fun _ herror => nomatch herror⟩
  | expired record =>
      obtain ⟨-, previous, rfl, hstored, -⟩ := hfetch
      have hprevious := h.log previous (hinvariant.versions.logged hstored).1
      refine ⟨fun written hmem => ?_, fun _ herror => nomatch herror⟩
      rw [List.mem_singleton.mp hmem]
      exact hprevious.succeeds (StoredHumanHandoff.advance_succeeds _)
        hprevious.pollClaimExpiresAt
  | failed error =>
      obtain ⟨-, record, hstored, hunreadable⟩ := hfetch
      have hrecord := h.log record (hinvariant.versions.logged hstored).1
      exact absurd (fun _ => hrecord.parses) hunreadable

theorem step [DecidableEq ι] (hstore : KeepsHandoffs store strict valid) (h : s.Sound)
    (hinvariant : HandoffInvariant service store strict valid s) {event : HandoffEvent ι}
    (hgenuine : event.Genuine numbers) (hwhole : StartsWhole service store s event)
    (hstep : handoffStep service store s event = some t) : t.Sound := by
  cases handoffStep_events hstep with
  | tick time hle => exact ⟨hgenuine, h.log, h.leased⟩
  | refused => exact h
  | create sentAt hfresh hstart =>
      refine ⟨h.now, fun record hmem => ?_, h.leased⟩
      simp only [HandoffState.create] at hmem
      split_ifs at hmem with hcreated
      · rcases List.mem_cons.mp hmem with rfl | hmem
        · obtain ⟨found, expiresAt, hexpiresAt, hrecord⟩ := start_isDate hgenuine hstart
          rw [hrecord]
          exact startRecord_sound hexpiresAt (hwhole _ _ _ _ _ _ _ _ rfl hstart hcreated)
        · exact h.log record hmem
      · exact h.log record hmem
  | move phase hworker hmoves => exact h.setPhase ⟨s.now, h.now, hmoves.leased⟩
  | read i call handoffId accessTokenDigest checkedAt hphase =>
      obtain ⟨hwritten, -⟩ := h.fetched hstore hinvariant handoffId accessTokenDigest checkedAt
      have hnext : HandoffState.Sound { s with
          store := (store.fetch handoffId accessTokenDigest checkedAt s.now s.store).2
          log := (store.fetch handoffId accessTokenDigest checkedAt s.now s.store).1.written ++
            s.log } :=
        ⟨h.now, fun record hmem => (List.mem_append.mp hmem).elim (hwritten record) (h.log record),
          h.leased⟩
      exact hnext.setPhase ⟨s.now, h.now, trivial⟩
  | update i task previous next checkedAt hphase =>
      obtain ⟨-, hnext⟩ := h.updating hinvariant hphase
      by_cases htrue : (store.update previous next checkedAt s.now s.store).1 = .ok true
      · rw [s.update_of_true store i task htrue]
        have hset := (@HandoffState.Sound.setPhase _ _ _ _ h i
          (.updated task previous next (.ok true))
          ⟨s.now, h.now, trivial⟩)
        exact ⟨h.now, fun record hmem => (List.mem_cons.mp hmem).elim (· ▸ hnext) (h.log record),
          hset.leased⟩
      · rw [s.update_of_not_true store i task htrue]
        have hset := (@HandoffState.Sound.setPhase _ _ _ _ h i (.updated task previous next
          (store.update previous next checkedAt s.now s.store).1) ⟨s.now, h.now, trivial⟩)
        exact ⟨h.now, h.log, hset.leased⟩
  | satisfied i claimed token hphase =>
      have hset := @HandoffState.Sound.setPhase _ _ _ _ h i (.protecting claimed token)
        ⟨s.now, h.now, trivial⟩
      exact ⟨h.now, h.log, hset.leased⟩

theorem initial {time : Instant} (htime : IsDate time) :
    (HandoffState.initial store time : HandoffState ι σ).Sound :=
  ⟨htime, fun _ hmem => absurd hmem List.not_mem_nil, fun _ => ⟨time, htime, trivial⟩⟩

theorem readsBack (hstore : KeepsHandoffs store strict valid) (h : s.Sound)
    (hinvariant : HandoffInvariant service store strict valid s) {event : HandoffEvent ι}
    (hgenuine : event.Genuine numbers) (hwhole : StartsWhole service store s event) :
    StepReadsBack service store numbers dates s event := by
  constructor
  · intro record hmem hversion
    refine StoredHumanHandoff.Sound.roundTrips ?_ hversion
    cases event with
    | start requirement input started handoffId accessTokenDigest checkedAt sentAt =>
        simp only [HandoffState.passed] at hmem
        cases hstart : service.start requirement input started handoffId accessTokenDigest
            checkedAt with
        | error error =>
            rw [hstart] at hmem
            cases hmem
        | ok created =>
            simp only [hstart] at hmem
            split_ifs at hmem with hcreated
            · obtain ⟨found, expiresAt, hexpiresAt, hrecord⟩ := start_isDate hgenuine hstart
              rw [List.mem_singleton.mp hmem, hrecord]
              exact startRecord_sound hexpiresAt (hwhole _ _ _ _ _ _ _ _ rfl hstart hcreated)
            · cases hmem
    | execute i =>
        simp only [HandoffState.passed] at hmem
        split at hmem
        · exact (h.fetched hstore hinvariant _ _ _).1 record hmem
        · next hphase =>
          obtain ⟨hprevious, hnext⟩ := h.updating hinvariant hphase
          rcases List.mem_pair.mp hmem with rfl | rfl
          · exact hprevious
          · exact hnext
        · cases hmem
    | tick | call | resume | provider | requirement | satisfy | protect => cases hmem
  · intro i call handoffId accessTokenDigest checkedAt _ _
    exact (h.fetched hstore hinvariant handoffId accessTokenDigest checkedAt).2

end HandoffState.Sound

/-- What `start` creates can be read back only if its interval is whole. -/
theorem startsWhole_of_readsBack {event : HandoffEvent ι} (hgenuine : event.Genuine numbers)
    (h : StepReadsBack service store numbers dates s event) :
    StartsWhole service store s event := by
  rintro requirement input started handoffId accessTokenDigest checkedAt sentAt record rfl hstart
    hcreated
  obtain ⟨found, expiresAt, hexpiresAt, rfl⟩ := start_isDate hgenuine hstart
  have hpassed : startRecord found input started handoffId accessTokenDigest expiresAt ∈
      s.passed service store (.start requirement input started handoffId accessTokenDigest
        checkedAt sentAt) := by
    simp only [HandoffState.passed, hstart, hcreated, if_true]
    exact List.mem_singleton_self _
  have hroundTrips := h.passed _ hpassed (by norm_num [startRecord])
  exact wholeInterval_of_roundTrips hexpiresAt hgenuine.2.2 hroundTrips

/-- A run passes to the store what can be read back if and only if it meets the guard. -/
def ReadableRuns (ι : Type) [DecidableEq ι] {σ : Type} (service : HumanHandoffService)
    (store : HandoffStore σ) (numbers : JsNumbers) (dates : JsDates)
    (guard : HandoffState ι σ → HandoffEvent ι → Prop) : Prop :=
  ∀ {now events}, IsDate now → (∀ event ∈ events, event.Genuine numbers) →
    ((handoffMachine service store).Along (StepReadsBack service store numbers dates)
        (.initial store now) events ↔
      (handoffMachine service store).Along guard (.initial store now) events)

theorem readableRuns_of_keeps [DecidableEq ι] (hstore : KeepsHandoffs store strict valid) :
    ReadableRuns ι service store numbers dates (StartsWhole service store) := by
  intro now events hnow hgenuine
  constructor
  · exact (handoffMachine service store).along_imp (I := fun _ => True)
      (P := fun event => event.Genuine numbers) (fun _ _ _ _ _ _ _ => trivial)
      (fun _ _ _ he h => startsWhole_of_readsBack he h) trivial hgenuine
  · exact (handoffMachine service store).along_imp
      (I := fun u => HandoffInvariant service store strict valid u ∧ u.Sound)
      (fun u event v hu he hwhole hstep =>
        ⟨(hu.1.step hstore (handoffStep_cases hstep)).2, hu.2.step hstore hu.1 he hwhole hstep⟩)
      (fun u event hu he hwhole => hu.2.readsBack hstore hu.1 he hwhole)
      ⟨.initial hstore now, .initial hnow⟩ hgenuine

end Runs

/-- Every record that the service writes can be read back, in each of the stores. -/
structure HandoffRecordsReadable (ι : Type) [DecidableEq ι] (service : HumanHandoffService)
    (numbers : JsNumbers) (dates : JsDates)
    (guard : ∀ {σ}, HandoffStore σ → HandoffState ι σ → HandoffEvent ι → Prop) : Prop where
  inMemory : ReadableRuns ι service inMemoryHandoffStore numbers dates (guard inMemoryHandoffStore)
  redis : ∀ keyPrefix, ReadableRuns ι service (redisHandoffStore keyPrefix) numbers dates
    (guard (redisHandoffStore keyPrefix))
  postgres : ReadableRuns ι service postgresHandoffStore numbers dates (guard postgresHandoffStore)

/-! ## An interval that is not whole -/

namespace FractionalInterval

def numbers : JsNumbers where
  IsDouble value := (∃ n : Nat, n ≤ 2 ^ 53 ∧ value = n) ∨ value = 1001 / 2
  write value := if value = 1001 / 2 then js "500.5" else writeWhole value
  read literal := if literal = js "500.5" then some (1001 / 2) else readWhole literal
  isDouble_nat n h := .inl ⟨n, h, rfl⟩
  read_write := by
    rintro value (⟨n, -, rfl⟩ | rfl)
    · have hwhole : (n : ℚ) ≠ 1001 / 2 := by
        intro h
        have hden := congrArg Rat.den h
        rw [Rat.den_natCast] at hden
        exact absurd hden (by decide +kernel)
      have hunits : writeWhole n ≠ js "500.5" := fun h =>
        absurd (@writeWhole_units n _ (h ▸ (by decide : (0x2E : UInt16) ∈ js "500.5")))
          (by decide)
      rw [if_neg hwhole, if_neg hunits, readWhole_writeWhole]
    · rw [if_pos rfl, if_pos rfl]
  write_ne_nil := by
    rintro value (hwhole | rfl)
    · split_ifs
      · decide
      · exact wholeNumbers.write_ne_nil value hwhole
    · rw [if_pos rfl]
      decide
  write_units := by
    rintro value (hwhole | rfl) u hu
    · split_ifs at hu
      · exact List.all_eq_true.mp (by decide : (js "500.5").all isNumberUnit = true) u hu
      · exact wholeNumbers.write_units value hwhole u hu
    · rw [if_pos rfl] at hu
      exact List.all_eq_true.mp (by decide : (js "500.5").all isNumberUnit = true) u hu

def requirement : HumanRequirement where
  x424Version := js "0.1"
  dependencyId := js "d"
  purpose := js "p"
  resource := ⟨js "POST", js "https://a.example/x", js "https://a.example", js "sha256:"⟩
  nonce := js "n"
  binding := ⟨.session, js "s"⟩
  createdAt := some 0
  expiresAt := some 60000
  accepts := [⟨js "world", js "m", js "1", none, [.action], none, none⟩]
  providerRequestKeys := []

def service : HumanHandoffService where
  adapters providerId := if providerId = js "world" then some [js "m"] else none
  unprotect _ := .ok none

def started : StartedProviderHandoff where
  presentation := ⟨js "https://p.example", none⟩
  protectedState := js "x"
  expiresAt := some 60000
  pollAfterMs := some (.finite (1001 / 2))

def events : List (HandoffEvent Bool) :=
  [.start (some requirement) ⟨js "d", js "n", js "world", js "m"⟩ started (js "h") (js "a") 0 0,
    .call true .poll (js "h") (js "a"), .execute true]

theorem events_genuine : ∀ event ∈ events, event.Genuine numbers := by
  refine List.forall_mem_cons.mpr ⟨⟨?_, ?_, ?_⟩, ?_⟩
  · rintro found ⟨⟩ expiresAt ⟨⟩
    decide
  · rintro expiresAt ⟨⟩
    decide
  · rintro value ⟨⟩
    exact .inr rfl
  · rintro event hevent
    simp only [List.mem_cons, List.not_mem_nil, or_false] at hevent
    rcases hevent with rfl | rfl <;> trivial

end FractionalInterval

theorem fractional_interval_unreadable :
    ∃ service numbers dates,
      ¬ HandoffRecordsReadable Bool service numbers dates fun _ _ _ => True := by
  refine ⟨FractionalInterval.service, FractionalInterval.numbers, writtenDates, fun h => ?_⟩
  let store := redisHandoffStore (js "x424")
  let M := handoffMachine (ι := Bool) FractionalInterval.service store
  let start := HandoffState.initial (ι := Bool) store 0
  let poll : Phase → Option (JsString × JsString)
    | .reading .poll handoffId accessTokenDigest 0 => some (handoffId, accessTokenDigest)
    | _ => none
  let observed (s : HandoffState Bool RedisHandoffDb) :=
    (poll (s.phase true), (store.fetch (js "h") (js "a") 0 s.now s.store).1)
  have hobserved : (M.run start (FractionalInterval.events.take 2)).map observed =
      some (some (js "h", js "a"), .failed ⟨js "Invalid durable handoff state"⟩) := by
    decide +kernel
  obtain ⟨s, hrun, hs⟩ := Option.map_eq_some_iff.mp hobserved
  obtain ⟨hpoll, hfetch⟩ := Prod.mk.inj hs
  have hphase : s.phase true = .reading .poll (js "h") (js "a") 0 := by
    simp only [poll] at hpoll
    split at hpoll
    · next hreading =>
      cases hpoll
      exact hreading
    · cases hpoll
  have hzero : IsDate 0 := by decide
  have hsplit : FractionalInterval.events = FractionalInterval.events.take 2 ++ [.execute true] :=
    rfl
  have hreads := (h.redis (js "x424") hzero FractionalInterval.events_genuine).mpr
    (M.along_true _ _)
  rw [hsplit] at hreads
  exact (M.along_at hreads hrun).read rfl hphase _ hfetch

theorem handoff_records_readable (ι : Type) [DecidableEq ι] (service : HumanHandoffService)
    (numbers : JsNumbers) (dates : JsDates) :
    HandoffRecordsReadable ι service numbers dates (StartsWhole service) where
  inMemory := readableRuns_of_keeps inMemory_keepsHandoffs
  redis keyPrefix := readableRuns_of_keeps (redis_keepsHandoffs keyPrefix)
  postgres := readableRuns_of_keeps postgres_keepsHandoffs

end X424
