import X424.Handoff.Invariant

/-!
# Exclusive provider polling

A worker has the claim from the update that made it until an update of its own
has ended it or the call is over.  The record under which it has the claim is
the stored one, or another version has taken its place and either no worker
will claim again or the lease is over.
-/

namespace X424

open Foundation

def UpdateTask.endsClaim : UpdateTask → Bool
  | release | complete _ | fail => true
  | expire _ _ _ _ | reclaim | claim | cancel => false

def Phase.claim? : Phase → Option StoredHumanHandoff
  | updating task previous _ _ => if task.endsClaim then some previous else none
  | updated task previous next reply =>
      if reply = .ok true then if task = .claim then some next else none
      else if task.endsClaim then some previous else none
  | polling claimed | lookingUp claimed | satisfying claimed | protecting claimed _ => some claimed
  | idle | reading _ _ _ _ | read _ _ _ _ _ | cancelling _ | done _ _ _ => none

def LeaseEnded (time : Instant) (record : StoredHumanHandoff) : Prop :=
  ∃ claimExpiresAt, record.pollClaimExpiresAt = some claimExpiresAt ∧ claimExpiresAt ≤ time

section Moves

variable {service : HumanHandoffService} {now : Instant} {claimed current : StoredHumanHandoff}

namespace HumanHandoffService

@[simp] theorem claimCurrent_claim? : (claimCurrent current now).claim? = none := by
  unfold claimCurrent
  cases current.claim now <;> rfl

@[simp] theorem authorized_claim? (call : HandoffCall) :
    (service.authorized call current now).claim? = none := by
  cases call with
  | poll =>
      simp only [authorized, pollAuthorized]
      split
      · rfl
      · rfl
      · split_ifs
        · rfl
        · rfl
        · exact claimCurrent_claim?
  | cancel =>
      simp only [authorized, cancelAuthorized]
      split_ifs <;> rfl

end HumanHandoffService

open HumanHandoffService

theorem afterRead_claim? (call : HandoffCall) (handoffId accessTokenDigest : JsString)
    (checkedAt : Instant) (fetched : Fetched) :
    (service.afterRead call handoffId accessTokenDigest checkedAt fetched now).claim? = none := by
  cases fetched with
  | unknown => cases call <;> rfl
  | found record => exact authorized_claim? call
  | expired record => exact authorized_claim? call
  | expiring record => rfl
  | failed error => rfl

theorem afterUpdate_claim? {task : UpdateTask} {previous next : StoredHumanHandoff}
    {reply : Except JsError Bool}
    (hclaim : (service.afterUpdate task previous next reply now).claim? = some claimed) :
    (Phase.updated task previous next reply).claim? = some claimed := by
  cases task with
  | expire call handoffId accessTokenDigest checkedAt =>
      rcases reply with error | (_ | _)
      · cases hclaim
      · cases hclaim
      · cases (authorized_claim? call).symm.trans hclaim
  | reclaim =>
      rcases reply with error | (_ | _)
      · cases hclaim
      · cases hclaim
      · cases claimCurrent_claim?.symm.trans hclaim
  | claim =>
      rcases reply with error | (_ | _)
      · cases hclaim
      · cases hclaim
      · simp only [afterUpdate] at hclaim
        split_ifs at hclaim <;> exact hclaim
  | release => cases reply <;> first | exact hclaim | cases hclaim
  | complete token => rcases reply with error | (_ | _) <;> exact hclaim
  | fail => cases reply <;> cases hclaim
  | cancel => cases reply <;> cases hclaim

theorem Moves.claim? {before after : Phase} (h : Moves service now before after)
    (hclaim : after.claim? = some claimed) : before.claim? = some claimed := by
  cases h with
  | call | cancel => exact nomatch hclaim
  | read call handoffId accessTokenDigest checkedAt fetched =>
      exact nomatch (afterRead_claim? _ _ _ _ _).symm.trans hclaim
  | updated task previous next reply => exact afterUpdate_claim? hclaim
  | provider claimed answer => cases answer <;> exact hclaim
  | requirement claimed found => rcases found with _ | (_ | _) <;> exact hclaim
  | unsatisfied claimed => exact hclaim
  | protect claimed token completion => cases completion <;> exact hclaim

end Moves

section Steps

variable {ι σ : Type} {service : HumanHandoffService} {store : HandoffStore σ}
  {strict : Bool} {valid : Instant → σ → Prop} {s t : HandoffState ι σ}
  {claimed next : StoredHumanHandoff}

/-- The claim is the stored record, or another one has taken its place for good. -/
def Standing (store : HandoffStore σ) (s : HandoffState ι σ) (claimed : StoredHumanHandoff) :
    Prop :=
  s.stored store claimed.handoffId = some claimed ∨
    ∀ current, s.stored store claimed.handoffId = some current →
      claimed.version < current.version ∧
        (current.status.terminal = true ∨ LeaseOver s.now claimed)

structure ClaimInvariant (store : HandoffStore σ) (s : HandoffState ι σ) : Prop where
  held : ∀ {i claimed}, (s.phase i).claim? = some claimed →
    Standing store s claimed ∧ ∃ time, (i, claimed, time) ∈ s.claims
  logged : ∀ {i claimed time}, (i, claimed, time) ∈ s.claims →
    claimed ∈ s.log ∧ claimed.status = .polling ∧ time ≤ s.now ∧
      ∃ claimExpiresAt, claimed.pollClaimExpiresAt = some claimExpiresAt
  owner : ∀ {i j claimed time other}, (i, claimed, time) ∈ s.claims →
    (j, claimed, other) ∈ s.claims → i = j
  order : ∀ {i j claimed later time}, (s.phase i).claim? = some claimed →
    (j, later, time) ∈ s.claims → claimed.handoffId = later.handoffId →
    claimed.version < later.version → LeaseOver time claimed
  times : ∀ {i j claimed later time other}, (i, claimed, time) ∈ s.claims →
    (j, later, other) ∈ s.claims → claimed.handoffId = later.handoffId →
    claimed.version < later.version → time ≤ other

/-- Where a claim goes in a step: unless its holder has released it, it stands. -/
theorem Standing.step (hstore : KeepsHandoffs store strict valid)
    (h : HandoffInvariant service store strict valid s)
    (hchange : StoreChange service store strict s t) (hlogged : claimed ∈ s.log)
    (hpolling : claimed.status = .polling) (hstanding : Standing store s claimed) :
    Standing store t claimed ∨ ∃ i next checkedAt,
      s.phase i = .updating .release claimed next checkedAt ∧
      t.phase i = .updated .release claimed next (.ok true) := by
  cases hchange with
  | kept now_le store_eq log_eq issued updated_eq =>
      have hbefore : ∀ {current}, t.stored store claimed.handoffId = some current →
          s.stored store claimed.handoffId = some current := by
        intro current hcurrent
        rw [HandoffState.stored, store_eq] at hcurrent
        exact hstore.stored_later now_le hcurrent
      rcases hstanding with hstored | hsuperseded
      · cases hcurrent : t.stored store claimed.handoffId with
        | none => exact Or.inl (Or.inr fun current hsome => by
            cases hcurrent.symm.trans hsome)
        | some current =>
            have heq := Option.some.inj ((hbefore hcurrent).symm.trans hstored)
            exact Or.inl (Or.inl (heq ▸ hcurrent))
      · refine Or.inl (Or.inr fun current hcurrent => ?_)
        obtain ⟨hversion, hover⟩ := hsuperseded current (hbefore hcurrent)
        exact ⟨hversion, hover.imp_right fun hlease => hlease.mono now_le⟩
  | created record now_eq fresh version status unmarked wrote log_eq issued_eq updated_eq =>
      have hne : claimed.handoffId ≠ record.handoffId :=
        fun heq => fresh (heq ▸ h.issued claimed hlogged)
      have hsame : t.stored store claimed.handoffId = s.stored store claimed.handoffId := by
        rw [HandoffState.stored, now_eq]
        exact wrote.others _ hne
      unfold Standing at hstanding ⊢
      rw [hsame, now_eq]
      exact Or.inl hstanding
  | swapped previous next now_eq held succeeds stored opens wrote log_eq issued_eq updated_eq
      cause =>
      have hnext := StoredHumanHandoff.handoffId_eq succeeds.identity
      by_cases hid : claimed.handoffId = next.handoffId
      · have hprevious : s.stored store claimed.handoffId = some previous := by
          rw [hid, hnext]
          exact stored
        have hcurrent : ∀ {current}, t.stored store claimed.handoffId = some current →
            current = next := by
          intro current hcurrent
          rw [hid, HandoffState.stored, now_eq] at hcurrent
          exact wrote.stores.same hcurrent
        rcases hstanding with hstored | hsuperseded
        · have heq : previous = claimed := Option.some.inj (hprevious.symm.trans hstored)
          subst heq
          have hlater := succeeds.version
          have hover : ∀ (_ : next.status.terminal = true ∨ LeaseOver s.now previous),
              Standing store t previous := by
            refine fun hover => Or.inr fun current hfound => ?_
            rw [hcurrent hfound, now_eq]
            exact ⟨by omega, hover⟩
          rcases cause with hexpired | ⟨i, task, checkedAt, hbefore, hafter⟩
          · exact Or.inl (hover (Or.inl (by rw [hexpired]; rfl)))
          · have hok := h.phases i
            rw [hbefore] at hok
            have hstatus := hok.status
            have htask := hok.task
            cases task with
            | release => exact Or.inr ⟨i, next, checkedAt, hbefore, hafter⟩
            | reclaim => exact Or.inl (hover (Or.inr htask.2.1))
            | claim => cases htask.1.symm.trans hpolling
            | expire | complete | fail | cancel =>
                exact Or.inl (hover (Or.inl (by rw [hstatus]; rfl)))
        · obtain ⟨hversion, hover⟩ := hsuperseded previous hprevious
          have hlease : LeaseOver s.now claimed :=
            hover.resolve_left (by simp [held.nonterminal])
          have hlater := succeeds.version
          refine Or.inl (Or.inr fun current hfound => ?_)
          rw [hcurrent hfound, now_eq]
          exact ⟨by omega, Or.inr hlease⟩
      · have hsame : t.stored store claimed.handoffId = s.stored store claimed.handoffId := by
          rw [HandoffState.stored, now_eq]
          exact wrote.others _ hid
        unfold Standing at hstanding ⊢
        rw [hsame, now_eq]
        exact Or.inl hstanding

theorem ClaimInvariant.initial (now : Instant) :
    ClaimInvariant store (HandoffState.initial store now : HandoffState ι σ) where
  held h := nomatch h
  logged h := nomatch h
  owner h := nomatch h
  order _ h := nomatch h
  times h := nomatch h

theorem HandoffInvariant.version_le (h : HandoffInvariant service store strict valid s)
    {previous record : StoredHumanHandoff} (hrecord : record ∈ s.log)
    (hstored : s.stored store previous.handoffId = some previous)
    (hid : record.handoffId = previous.handoffId) : record.version ≤ previous.version :=
  h.versions.newest hrecord (show s.stored store record.handoffId = some previous from
    hid ▸ hstored)

namespace ClaimInvariant

variable [DecidableEq ι]

theorem unclaimed (hstore : KeepsHandoffs store strict valid)
    (h : HandoffInvariant service store strict valid s) (hclaims : ClaimInvariant store s)
    (hstep : HandoffStep service store s t) (hsame : t.claims = s.claims)
    (hbefore : ∀ {i claimed}, (t.phase i).claim? = some claimed →
      (s.phase i).claim? = some claimed) : ClaimInvariant store t := by
  obtain ⟨hchange, _⟩ := h.step hstore hstep
  refine ⟨fun hheld => ?_, fun hclaim => ?_, hsame ▸ hclaims.owner, fun hheld hclaim => ?_,
    hsame ▸ hclaims.times⟩
  · obtain ⟨hstanding, time, hclaim⟩ := hclaims.held (hbefore hheld)
    obtain ⟨hlogged, hpolling, _, _⟩ := hclaims.logged hclaim
    refine ⟨?_, time, hsame ▸ hclaim⟩
    rcases hstanding.step hstore h hchange hlogged hpolling with hstanding |
      ⟨j, next, checkedAt, hrelease, hreleased⟩
    · exact hstanding
    · -- the worker that has released the claim is the one that held it
      obtain ⟨_, time', hclaim'⟩ := hclaims.held (congrArg Phase.claim? hrelease)
      obtain rfl := hclaims.owner hclaim hclaim'
      rw [hreleased] at hheld
      exact nomatch hheld
  · obtain ⟨hlogged, hpolling, hle, hlease⟩ := hclaims.logged (hsame ▸ hclaim)
    exact ⟨hchange.log_mono hlogged, hpolling, Int.le_trans hle hchange.now_mono, hlease⟩
  · exact hclaims.order (hbefore hheld) (hsame ▸ hclaim)

theorem claim (hstore : KeepsHandoffs store strict valid)
    (h : HandoffInvariant service store strict valid s) (hclaims : ClaimInvariant store s)
    {i : ι} {previous next : StoredHumanHandoff} {checkedAt : Instant}
    (hphase : s.phase i = .updating .claim previous next checkedAt)
    (htrue : (store.update previous next checkedAt s.now s.store).1 = .ok true) :
    ClaimInvariant store (s.update store i .claim previous next checkedAt) := by
  have hstep : HandoffStep service store s (s.update store i .claim previous next checkedAt) :=
    .update i .claim previous next checkedAt hphase
  have ht := s.update_of_true store i .claim htrue
  obtain ⟨hchange, _⟩ := h.step hstore hstep
  have hok := h.phases i
  rw [hphase] at hok
  obtain ⟨hpending, time, hclaim⟩ := hok.task
  obtain ⟨lease, _, hlease⟩ := StoredHumanHandoff.claim_eq_ok.mp hclaim
  have hid := StoredHumanHandoff.handoffId_eq hok.succeeds.identity
  have hafter : (s.update store i .claim previous next checkedAt).phase i =
      .updated .claim previous next (.ok true) := by
    rw [s.update_phase, Function.update_self, htrue]
  obtain ⟨hstored, hversion, hnow, _⟩ := (h.stepConsistent hstore hstep).update hphase hafter
  -- every record of this handoff that is in the log has an earlier version
  have hearlier : ∀ {record}, record ∈ s.log → record.handoffId = next.handoffId →
      record.version < next.version := by
    intro record hrecord hsame
    have := h.version_le hrecord hstored (hsame.trans hid)
    omega
  have hclaimsEq : (s.update store i .claim previous next checkedAt).claims =
      (i, next, s.now) :: s.claims := by
    rw [ht]
    rfl
  have hnowEq : (s.update store i .claim previous next checkedAt).now = s.now := by
    rw [ht]
    rfl
  have hlogEq : (s.update store i .claim previous next checkedAt).log = next :: s.log := by
    rw [ht]
  -- the worker has the new claim, the others have the claims they had
  have hholds : ∀ {k claimed},
      ((s.update store i .claim previous next checkedAt).phase k).claim? = some claimed →
      (k = i ∧ claimed = next) ∨ (k ≠ i ∧ (s.phase k).claim? = some claimed) := by
    intro k claimed hheld
    by_cases hk : k = i
    · subst hk
      rw [hafter] at hheld
      exact Or.inl ⟨rfl, (Option.some.inj hheld).symm⟩
    · rw [s.update_phase, Function.update_of_ne hk] at hheld
      exact Or.inr ⟨hk, hheld⟩
  refine ⟨fun {k claimed} hheld => ?_, fun {j claimed time} hmem => ?_,
    fun {j k claimed time other} hfirst hsecond => ?_,
    fun {k j claimed later time} hheld hmem hsame hlt => ?_,
    fun {j k claimed later time other} hfirst hsecond hsame hlt => ?_⟩
  · rw [hclaimsEq]
    rcases hholds hheld with ⟨rfl, rfl⟩ | ⟨hk, hbefore⟩
    · refine ⟨?_, s.now, List.mem_cons_self⟩
      rcases hnow with hsome | ⟨hnone, _⟩
      · exact Or.inl (hid ▸ hsome)
      · exact Or.inr fun current hcurrent => nomatch (hid ▸ hnone).symm.trans hcurrent
    · obtain ⟨hstanding, time, hmem⟩ := hclaims.held hbefore
      obtain ⟨hlogged, hpolling, _, _⟩ := hclaims.logged hmem
      refine ⟨?_, time, List.mem_cons_of_mem _ hmem⟩
      rcases hstanding.step hstore h hchange hlogged hpolling with hstanding |
        ⟨j, other, sentAt, hrelease, hreleased⟩
      · exact hstanding
      · have hj : j ≠ i := by
          rintro rfl
          exact nomatch hphase.symm.trans hrelease
        rw [s.update_phase, Function.update_of_ne hj] at hreleased
        exact nomatch hrelease.symm.trans hreleased
  · rw [hclaimsEq] at hmem
    rw [hlogEq, hnowEq]
    rcases List.mem_cons.mp hmem with heq | hmem
    · obtain ⟨rfl, rfl, rfl⟩ := heq
      exact ⟨List.mem_cons_self, hok.status, Int.le_refl _, lease, hlease ▸ rfl⟩
    · obtain ⟨hlogged, hrest⟩ := hclaims.logged hmem
      exact ⟨List.mem_cons_of_mem _ hlogged, hrest⟩
  · rw [hclaimsEq] at hfirst hsecond
    rcases List.mem_cons.mp hfirst with heq | hfirst <;>
      rcases List.mem_cons.mp hsecond with heq' | hsecond
    · cases heq
      cases heq'
      rfl
    · cases heq
      exact absurd (hearlier (hclaims.logged hsecond).1 rfl) (Nat.lt_irrefl _)
    · cases heq'
      exact absurd (hearlier (hclaims.logged hfirst).1 rfl) (Nat.lt_irrefl _)
    · exact hclaims.owner hfirst hsecond
  · rw [hclaimsEq] at hmem
    rcases List.mem_cons.mp hmem with heq | hold <;>
      rcases hholds hheld with ⟨rfl, rfl⟩ | ⟨hk, hbefore⟩
    · cases heq
      exact absurd hlt (Nat.lt_irrefl _)
    · cases heq
      obtain ⟨hstanding, time, hmem⟩ := hclaims.held hbefore
      have hcurrent : s.stored store claimed.handoffId = some previous := by
        rw [hsame, hid]
        exact hstored
      rcases hstanding with hstanding | hsuperseded
      · have heq := Option.some.inj (hcurrent.symm.trans hstanding)
        have hstatus : claimed.status = .pending := heq ▸ hpending
        exact nomatch hstatus.symm.trans (hclaims.logged hmem).2.1
      · exact (hsuperseded previous hcurrent).2.resolve_left (by simp [hok.held.nonterminal])
    · exact absurd (hearlier (hclaims.logged hold).1 hsame.symm) (Nat.lt_asymm hlt)
    · exact hclaims.order hbefore hold hsame hlt
  · rw [hclaimsEq] at hfirst hsecond
    rcases List.mem_cons.mp hfirst with heq | hfirst <;>
      rcases List.mem_cons.mp hsecond with heq' | hsecond
    · cases heq
      cases heq'
      exact Int.le_refl _
    · cases heq
      exact absurd (hearlier (hclaims.logged hsecond).1 hsame.symm) (Nat.lt_asymm hlt)
    · cases heq'
      exact (hclaims.logged hfirst).2.2.1
    · exact hclaims.times hfirst hsecond hsame hlt

theorem step (hstore : KeepsHandoffs store strict valid)
    (h : HandoffInvariant service store strict valid s) (hclaims : ClaimInvariant store s)
    (hstep : HandoffStep service store s t) : ClaimInvariant store t := by
  have hpasses : ∀ {i phase}, t.claims = s.claims → t.phase = Function.update s.phase i phase →
      (∀ claimed, phase.claim? = some claimed → (s.phase i).claim? = some claimed) →
      ClaimInvariant store t := by
    intro i phase hsame hphases hmoves
    refine hclaims.unclaimed hstore h hstep hsame fun {j claimed} hheld => ?_
    rw [hphases] at hheld
    by_cases hj : j = i
    · subst hj
      rw [Function.update_self] at hheld
      exact hmoves claimed hheld
    · rwa [Function.update_of_ne hj] at hheld
  cases hstep with
  | tick time hle => exact hclaims.unclaimed hstore h (.tick time hle) rfl fun hheld => hheld
  | refused => exact hclaims
  | create found input started handoffId accessTokenDigest expiresAt checkedAt hfresh =>
      exact hclaims.unclaimed hstore h
        (.create found input started handoffId accessTokenDigest expiresAt checkedAt hfresh) rfl
        fun hheld => hheld
  | move i phase hmoves => exact hpasses rfl rfl fun claimed hclaim => hmoves.claim? hclaim
  | read i call handoffId accessTokenDigest checkedAt hphase =>
      exact hpasses rfl rfl fun claimed hclaim => nomatch hclaim
  | update i task previous next checkedAt hphase =>
      by_cases htrue : (store.update previous next checkedAt s.now s.store).1 = .ok true
      · by_cases htask : task = .claim
        · subst htask
          exact hclaims.claim hstore h hphase htrue
        · refine hpasses ?_ (s.update_phase store i task previous next checkedAt)
            fun claimed hclaim => ?_
          · rw [s.update_of_true store i task htrue]
            exact if_neg htask
          · simp [Phase.claim?, htrue, htask] at hclaim
      · refine hpasses ?_ (s.update_phase store i task previous next checkedAt)
          fun claimed hclaim => ?_
        · rw [s.update_of_not_true store i task htrue]
          rfl
        · rw [hphase]
          simpa [Phase.claim?, htrue] using hclaim
  | satisfied i claimed token hphase =>
      refine hpasses rfl rfl fun other hclaim => ?_
      rw [hphase]
      exact hclaim

theorem run (hstore : KeepsHandoffs store strict valid) {now : Instant}
    {events : List (HandoffEvent ι)}
    (hrun : (handoffMachine service store).run (.initial store now) events = some s) :
    HandoffInvariant service store strict valid s ∧ ClaimInvariant store s := by
  refine (handoffMachine service store).invariant_run
    (I := fun u => HandoffInvariant service store strict valid u ∧ ClaimInvariant store u)
    (fun u event v hu hstep => ?_) ⟨.initial hstore now, .initial now⟩ hrun
  have hcases := handoffStep_cases hstep
  exact ⟨(hu.1.step hstore hcases).2, hu.2.step hstore hu.1 hcases⟩

omit [DecidableEq ι] in
theorem earlier_over (h : HandoffInvariant service store strict valid s)
    (hclaims : ClaimInvariant store s) {i j : ι} {claimed other : StoredHumanHandoff}
    (hne : i ≠ j) (hi : (s.phase i).claim? = some claimed) (hj : (s.phase j).claim? = some other)
    (hid : claimed.handoffId = other.handoffId) :
    ∃ time time', (i, claimed, time) ∈ s.claims ∧ (j, other, time') ∈ s.claims ∧
      ((time ≤ time' ∧ LeaseEnded time' claimed) ∨ (time' ≤ time ∧ LeaseEnded time other)) := by
  obtain ⟨_, time, hmem⟩ := hclaims.held hi
  obtain ⟨_, time', hmem'⟩ := hclaims.held hj
  obtain ⟨hlogged, _, _, lease, hlease⟩ := hclaims.logged hmem
  obtain ⟨hlogged', _, _, lease', hlease'⟩ := hclaims.logged hmem'
  refine ⟨time, time', hmem, hmem', ?_⟩
  rcases Nat.lt_trichotomy claimed.version other.version with hlt | heq | hgt
  · exact Or.inl ⟨hclaims.times hmem hmem' hid hlt, lease, hlease,
      hclaims.order hi hmem' hid hlt lease hlease⟩
  · have hsame : claimed = other := h.versions.eq_of_version hlogged hlogged' hid heq
    subst hsame
    exact absurd (hclaims.owner hmem hmem') hne
  · exact Or.inr ⟨hclaims.times hmem' hmem hid.symm hgt, lease', hlease',
      hclaims.order hj hmem hid.symm hgt lease' hlease'⟩

end ClaimInvariant

/-! ## Provider polls -/

/-- Who may be polling the provider, and who may hold an unexpired claim. -/
structure ExclusivePolling (s : HandoffState ι σ) : Prop where
  claimed : ∀ {i claimed}, s.phase i = .polling claimed →
    ∃ time, (i, claimed, time) ∈ s.claims
  overlap : ∀ {i j claimed other}, i ≠ j → s.phase i = .polling claimed →
    s.phase j = .polling other → claimed.handoffId = other.handoffId →
    ∃ time time', (i, claimed, time) ∈ s.claims ∧ (j, other, time') ∈ s.claims ∧
      ((time ≤ time' ∧ LeaseEnded time' claimed) ∨ (time' ≤ time ∧ LeaseEnded time other))
  exclusive : ∀ {i j claimed other}, i ≠ j → (s.phase i).claim? = some claimed →
    (s.phase j).claim? = some other → claimed.handoffId = other.handoffId →
    LeaseEnded s.now claimed ∨ LeaseEnded s.now other

variable [DecidableEq ι]

theorem exclusivePolling_of_keeps (hstore : KeepsHandoffs store strict valid) {now : Instant}
    {events : List (HandoffEvent ι)}
    (hrun : (handoffMachine service store).run (.initial store now) events = some s) :
    ExclusivePolling s := by
  obtain ⟨h, hclaims⟩ := ClaimInvariant.run hstore hrun
  refine ⟨fun hphase => ?_, fun hne hi hj hid => ?_, fun hne hi hj hid => ?_⟩
  · exact (hclaims.held (congrArg Phase.claim? hphase)).2
  · exact hclaims.earlier_over h hne (congrArg Phase.claim? hi) (congrArg Phase.claim? hj) hid
  · obtain ⟨time, time', hmem, hmem', hover⟩ := hclaims.earlier_over h hne hi hj hid
    rcases hover with ⟨_, lease, hlease, hle⟩ | ⟨_, lease, hlease, hle⟩
    · exact Or.inl ⟨lease, hlease, Int.le_trans hle (hclaims.logged hmem').2.2.1⟩
    · exact Or.inr ⟨lease, hlease, Int.le_trans hle (hclaims.logged hmem).2.2.1⟩

end Steps

def ExclusiveRuns (ι : Type) [DecidableEq ι] {σ : Type} (service : HumanHandoffService)
    (store : HandoffStore σ) : Prop :=
  ∀ {now events} {s : HandoffState ι σ},
    (handoffMachine service store).run (.initial store now) events = some s → ExclusivePolling s

structure ProviderPollsExclusive (ι : Type) [DecidableEq ι] (service : HumanHandoffService) :
    Prop where
  inMemory : ExclusiveRuns ι service inMemoryHandoffStore
  redis : ∀ keyPrefix, ExclusiveRuns ι service (redisHandoffStore keyPrefix)
  postgres : ExclusiveRuns ι service postgresHandoffStore

theorem providerPolls_exclusive (ι : Type) [DecidableEq ι] (service : HumanHandoffService) :
    ProviderPollsExclusive ι service where
  inMemory := exclusivePolling_of_keeps inMemory_keepsHandoffs
  redis keyPrefix := exclusivePolling_of_keeps (redis_keepsHandoffs keyPrefix)
  postgres := exclusivePolling_of_keeps postgres_keepsHandoffs

end X424
