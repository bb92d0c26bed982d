import X424.Handoff.Answers
import X424.Handoff.Polling

/-!
# Completion

Between the success of `satisfy` and the update that completes the handoff a
worker waits twice.  As long as nothing takes the claimed record away in the
meantime the token ends up in the store.
-/

namespace X424

open Foundation

def Phase.completing : Phase → Option (StoredHumanHandoff × JsString)
  | protecting claimed token => some (claimed, token)
  | updating (.complete token) previous _ _ => some (previous, token)
  | _ => none

theorem Phase.claim?_of_completing {phase : Phase} {claimed : StoredHumanHandoff}
    {token : JsString} (h : phase.completing = some (claimed, token)) :
    phase.claim? = some claimed := by
  unfold Phase.completing at h
  split at h
  · cases h
    rfl
  · cases h
    rfl
  · cases h

section Steps

variable {ι σ : Type} (service : HumanHandoffService) (store : HandoffStore σ)

/-- A token has been issued under the claim and is not stored yet. -/
def Awaited (s : HandoffState ι σ) (claimed : StoredHumanHandoff) : Prop :=
  ∃ i token, (s.phase i).completing = some (claimed, token)

/-- Nothing takes away the record under which a token has been issued: it is
stored when `satisfy` succeeds, no time passes that drops it, no read expires
it, no other update of it is executed, and the protector does not fail. -/
def Undisturbed (s : HandoffState ι σ) : HandoffEvent ι → Prop
  | .tick time => ∀ claimed, Awaited s claimed →
      store.stored time s.store claimed.handoffId = some claimed
  | .execute i =>
      (∀ call handoffId accessTokenDigest checkedAt claimed,
        s.phase i = .reading call handoffId accessTokenDigest checkedAt → Awaited s claimed →
        (store.fetch handoffId accessTokenDigest checkedAt s.now s.store).1 ≠
          .expired claimed.expire) ∧
      ∀ task previous next checkedAt, s.phase i = .updating task previous next checkedAt →
        Awaited s previous → ∃ token, task = .complete token
  | .satisfy i token => token.isSome → ∀ claimed, s.phase i = .satisfying claimed →
      s.stored store claimed.handoffId = some claimed
  | .protect _ completion => completion.isSome
  | _ => True

/-- The worker is still completing the handoff, and no other record is in the way. -/
def Completing (s : HandoffState ι σ) (claimed : StoredHumanHandoff) (token : JsString) : Prop :=
  (∃ i, (s.phase i).completing = some (claimed, token)) ∧
    s.stored store claimed.handoffId = some claimed

/-- The handoff was completed with the token, and no other record is stored. -/
def CompletedWith (s : HandoffState ι σ) (claimed : StoredHumanHandoff) (token : JsString) :
    Prop :=
  ∃ completed ∈ s.log, completed.handoffId = claimed.handoffId ∧ completed.status = .completed ∧
    service.unprotect (completed.protectedCompletion.getD []) = .ok (some token) ∧
    (s.stored store claimed.handoffId = some completed ∨
      (s.stored store claimed.handoffId = none ∧ completed.expiresAt ≤ s.now))

/-- What becomes of the tokens that `satisfy` has returned. -/
def TokensStored (s : HandoffState ι σ) : Prop :=
  ∀ claimed token, (claimed, token) ∈ s.tokens →
    Completing store s claimed token ∨ CompletedWith service store s claimed token

variable {service store} {strict : Bool} {valid : Instant → σ → Prop} {s t : HandoffState ι σ}
  {claimed : StoredHumanHandoff} {token : JsString}

theorem CompletedWith.step (hstore : KeepsHandoffs store strict valid)
    (h : HandoffInvariant service store strict valid s)
    (hchange : StoreChange service store strict s t)
    (hcompleted : CompletedWith service store s claimed token) :
    CompletedWith service store t claimed token := by
  obtain ⟨completed, hlogged, hid, hstatus, hopens, hstored | ⟨hnone, hexpired⟩⟩ := hcompleted
  · refine ⟨completed, hchange.log_mono hlogged, hid, hstatus, hopens, ?_⟩
    rcases hchange.stored hstore h hstored with hkept | hvanished | ⟨hopen, _⟩
    · exact Or.inl hkept
    · exact Or.inr hvanished
    · rw [hstatus] at hopen
      exact nomatch hopen
  · refine ⟨completed, hchange.log_mono hlogged, hid, hstatus, hopens, Or.inr ⟨?_, ?_⟩⟩
    · exact (hchange.stored_none hstore (hid ▸ h.issued completed hlogged) hnone).2
    · exact Int.le_trans hexpired hchange.now_mono

variable [DecidableEq ι]

theorem Completing.setPhase (h : Completing store s claimed token) {j : ι} {phase : Phase}
    (hj : (s.phase j).completing = none) : Completing store (s.setPhase j phase) claimed token := by
  obtain ⟨⟨i, hi⟩, hstored⟩ := h
  refine ⟨⟨i, ?_⟩, hstored⟩
  have hne : i ≠ j := by
    rintro rfl
    exact nomatch hj.symm.trans hi
  rwa [s.setPhase_of_ne phase hne]

theorem Completing.of_stored {i j : ι} {phase : Phase}
    (hi : (s.phase i).completing = some (claimed, token)) (hne : i ≠ j)
    (hphases : t.phase = Function.update s.phase j phase)
    (hstored : t.stored store claimed.handoffId = some claimed) :
    Completing store t claimed token :=
  ⟨⟨i, by rw [hphases, Function.update_of_ne hne]; exact hi⟩, hstored⟩

omit [DecidableEq ι] in
theorem Completing.create (hstore : KeepsHandoffs store strict valid)
    (h : HandoffInvariant service store strict valid s) {record : StoredHumanHandoff}
    (hfresh : record.handoffId ∉ s.issued) (hopen : record.status.terminal = false)
    (checkedAt : Instant) (hcompleting : Completing store s claimed token) :
    Completing store (s.create store record checkedAt) claimed token := by
  obtain ⟨⟨i, hi⟩, hstored⟩ := hcompleting
  refine ⟨⟨i, hi⟩, ?_⟩
  obtain ⟨hlogged, _⟩ := h.versions.logged hstored
  have hne : claimed.handoffId ≠ record.handoffId :=
    fun heq => hfresh (heq ▸ h.issued claimed hlogged)
  obtain ⟨_, hwrites⟩ := hstore.create checkedAt h.valid hopen
  rcases hwrites with ⟨_, _, hwrote⟩ | ⟨_, hsame⟩
  · exact (hwrote.others _ hne).trans hstored
  · exact (congrArg (store.stored s.now · claimed.handoffId) hsame).trans hstored

theorem Completing.read (hstore : KeepsHandoffs store strict valid)
    (h : HandoffInvariant service store strict valid s) {j : ι} {call : HandoffCall}
    {handoffId accessTokenDigest : JsString} {checkedAt : Instant}
    (hphase : s.phase j = .reading call handoffId accessTokenDigest checkedAt)
    (hguard : Undisturbed store s (.execute j)) (hcompleting : Completing store s claimed token) :
    Completing store (s.read store j call handoffId accessTokenDigest checkedAt) claimed
      token := by
  obtain ⟨⟨i, hi⟩, hstored⟩ := hcompleting
  have hne : i ≠ j := by
    rintro rfl
    rw [hphase] at hi
    exact nomatch hi
  refine Completing.of_stored hi hne rfl ?_
  have hexpires := hguard.1 call handoffId accessTokenDigest checkedAt claimed hphase
    ⟨i, token, hi⟩
  obtain ⟨_, hfetch⟩ := hstore.fetch handoffId accessTokenDigest checkedAt h.valid
  have hreply : (s.read store j call handoffId accessTokenDigest checkedAt).stored store
      claimed.handoffId = store.stored s.now
        (store.fetch handoffId accessTokenDigest checkedAt s.now s.store).2
        claimed.handoffId := rfl
  rw [hreply]
  revert hfetch hexpires
  rcases store.fetch handoffId accessTokenDigest checkedAt s.now s.store with ⟨fetched, after⟩
  intro hexpires hfetch
  cases fetched with
  | unknown | found | expiring | failed => exact hfetch.1 ▸ hstored
  | expired record =>
      obtain ⟨hwrote, previous, rfl, hprevious, _⟩ := hfetch
      have hnamed := hstore.named h.valid hprevious
      by_cases hid : claimed.handoffId = previous.handoffId
      · have heq : previous = claimed := by
          rw [hid, hnamed] at hstored
          exact Option.some.inj (hprevious.symm.trans hstored)
        exact absurd (heq ▸ rfl) hexpires
      · exact (hwrote.others _ hid).trans hstored

theorem Completing.update (hstore : KeepsHandoffs store strict valid)
    (h : HandoffInvariant service store strict valid s) (hclaims : ClaimInvariant store s)
    {j : ι} {task : UpdateTask} {previous next : StoredHumanHandoff} {checkedAt : Instant}
    (hphase : s.phase j = .updating task previous next checkedAt)
    (hguard : Undisturbed store s (.execute j)) (hcompleting : Completing store s claimed token) :
    Completing store (s.update store j task previous next checkedAt) claimed token ∨
      CompletedWith service store (s.update store j task previous next checkedAt) claimed
        token := by
  obtain ⟨⟨i, hi⟩, hstored⟩ := hcompleting
  have hok := h.phases j
  rw [hphase] at hok
  have hphases := s.update_phase store j task previous next checkedAt
  by_cases hij : i = j
  · -- the worker's own update
    subst hij
    have hcomplete : previous = claimed ∧ task = .complete token := by
      rw [hphase] at hi
      cases task with
      | complete other =>
          obtain ⟨rfl, rfl⟩ := Prod.mk.inj (Option.some.inj hi)
          exact ⟨rfl, rfl⟩
      | expire | reclaim | claim | release | fail | cancel => exact nomatch hi
    obtain ⟨rfl, rfl⟩ := hcomplete
    have htrue := hstore.update_ok checkedAt h.valid hok.held.nonterminal hok.succeeds
      hok.held.readable hstored
    have hstep : HandoffStep service store s
        (s.update store i (.complete token) previous next checkedAt) :=
      .update i (.complete token) previous next checkedAt hphase
    have hafter : (s.update store i (.complete token) previous next checkedAt).phase i =
        .updated (.complete token) previous next (.ok true) := by
      rw [hphases, Function.update_self, htrue]
    obtain ⟨_, _, hnow, _⟩ := (h.stepConsistent hstore hstep).update hphase hafter
    refine Or.inr ⟨next, ?_, StoredHumanHandoff.handoffId_eq hok.succeeds.identity, hok.status,
      hok.task.2.2, hnow⟩
    rw [s.update_of_true store i _ htrue]
    exact List.mem_cons_self
  · refine Or.inl (Completing.of_stored hi hij hphases ?_)
    obtain ⟨_, hwrites⟩ := hstore.update checkedAt h.valid hok.held.nonterminal hok.succeeds
      fun current hcurrent hversion => h.versions.eq_stored hok.held.logged hcurrent hversion
    have hid := StoredHumanHandoff.handoffId_eq hok.succeeds.identity
    rcases hwrites with ⟨htrue, hprevious, hwrote⟩ | ⟨hfalse, hsame⟩
    · have hne : claimed.handoffId ≠ next.handoffId := by
        intro heq
        rw [hid] at heq
        have hclaimed : previous = claimed :=
          Option.some.inj (hprevious.symm.trans (heq ▸ hstored))
        subst hclaimed
        obtain ⟨other, rfl⟩ := hguard.2 task previous next checkedAt hphase ⟨i, token, hi⟩
        have hj : (s.phase j).claim? = some previous := by
          rw [hphase]
          rfl
        obtain ⟨_, _, howned⟩ := hclaims.held (Phase.claim?_of_completing hi)
        obtain ⟨_, _, howned'⟩ := hclaims.held hj
        exact hij (hclaims.owner howned howned')
      rw [s.update_of_true store j task htrue]
      exact (hwrote.others _ hne).trans hstored
    · rw [s.update_of_not_true store j task hfalse, hsame]
      exact hstored

theorem TokensStored.step (hstore : KeepsHandoffs store strict valid)
    (h : HandoffInvariant service store strict valid s) (hclaims : ClaimInvariant store s)
    (htokens : TokensStored service store s) {event : HandoffEvent ι}
    (hguard : Undisturbed store s event) (hstep : handoffStep service store s event = some t) :
    TokensStored service store t := by
  obtain ⟨hchange, _⟩ := h.step hstore (handoffStep_cases hstep)
  -- it is enough to follow the workers that are completing
  have hfollow : (∀ {claimed token}, (claimed, token) ∈ t.tokens →
      (claimed, token) ∈ s.tokens ∨ Completing store t claimed token) →
      (∀ {claimed token}, Completing store s claimed token →
        Completing store t claimed token ∨ CompletedWith service store t claimed token) →
      TokensStored service store t := by
    intro hnew hkept claimed token hmem
    rcases hnew hmem with hold | hcompleting
    · rcases htokens claimed token hold with hcompleting | hcompleted
      · exact hkept hcompleting
      · exact Or.inr (hcompleted.step hstore h hchange)
    · exact Or.inl hcompleting
  have hidle : ∀ {j : ι} {phase : Phase}, t = s.setPhase j phase →
      (s.phase j).completing = none → TokensStored service store t := by
    rintro j phase rfl hj
    exact hfollow Or.inl fun hcompleting => Or.inl (hcompleting.setPhase hj)
  cases event with
  | tick time =>
      simp only [handoffStep, Option.ite_none_right_eq_some, Option.some.injEq] at hstep
      obtain ⟨_, rfl⟩ := hstep
      refine hfollow Or.inl fun {claimed token} hcompleting => Or.inl ⟨hcompleting.1, ?_⟩
      obtain ⟨i, hi⟩ := hcompleting.1
      exact hguard claimed ⟨i, token, hi⟩
  | start requirement input started handoffId accessTokenDigest checkedAt sentAt =>
      simp only [handoffStep, Option.ite_none_right_eq_some] at hstep
      obtain ⟨⟨hfresh, _⟩, hstep⟩ := hstep
      cases hrecord : service.start requirement input started handoffId accessTokenDigest
          checkedAt with
      | error error =>
          rw [hrecord] at hstep
          cases hstep
          exact htokens
      | ok record =>
          rw [hrecord] at hstep
          cases hstep
          obtain ⟨found, _, _, _, _, _, _, rfl⟩ := start_eq_ok hrecord
          exact hfollow Or.inl fun hcompleting =>
            Or.inl (hcompleting.create hstore h hfresh rfl sentAt)
  | call j call handoffId accessTokenDigest =>
      simp only [handoffStep] at hstep
      split at hstep
      · next hphase =>
        cases hstep
        exact hidle rfl (by rw [hphase]; rfl)
      · cases hstep
  | execute j =>
      simp only [handoffStep] at hstep
      split at hstep
      · next hphase =>
        cases hstep
        exact hfollow Or.inl fun hcompleting =>
          Or.inl (hcompleting.read hstore h hphase hguard)
      · next task previous next checkedAt hphase =>
        cases hstep
        refine hfollow (fun hmem => Or.inl ?_) fun hcompleting =>
          hcompleting.update hstore h hclaims hphase hguard
        rwa [s.update_tokens] at hmem
      · cases hstep
  | resume j =>
      simp only [handoffStep] at hstep
      split at hstep
      · next hphase =>
        cases hstep
        exact hidle rfl (by rw [hphase]; rfl)
      · next hphase =>
        cases hstep
        exact hidle rfl (by rw [hphase]; rfl)
      · next hphase =>
        cases hstep
        exact hidle rfl (by rw [hphase]; rfl)
      · cases hstep
  | provider j answer =>
      simp only [handoffStep] at hstep
      split at hstep
      · next hphase =>
        cases hstep
        exact hidle rfl (by rw [hphase]; rfl)
      · cases hstep
  | requirement j found =>
      simp only [handoffStep] at hstep
      split at hstep
      · next hphase =>
        cases hstep
        exact hidle rfl (by rw [hphase]; rfl)
      · cases hstep
  | satisfy j issued =>
      simp only [handoffStep] at hstep
      split at hstep
      · next current hphase =>
        have hj : (s.phase j).completing = none := by
          rw [hphase]
          rfl
        cases hstep
        refine hfollow (fun {claimed token} hmem => ?_) fun hcompleting =>
          Or.inl (hcompleting.setPhase hj)
        cases issued with
        | none => exact Or.inl hmem
        | some issued =>
            rcases List.mem_cons.mp hmem with heq | hmem
            · cases heq
              refine Or.inr ⟨⟨j, ?_⟩, hguard rfl current hphase⟩
              exact congrArg Phase.completing (s.setPhase_self j _)
            · exact Or.inl hmem
      · cases hstep
  | protect j completion =>
      simp only [handoffStep] at hstep
      split at hstep
      · next current issued hphase =>
        simp only [Option.ite_none_right_eq_some, Option.some.injEq] at hstep
        obtain ⟨_, rfl⟩ := hstep
        obtain ⟨text, rfl⟩ := Option.isSome_iff_exists.mp hguard
        refine hfollow Or.inl fun {claimed token} hcompleting => Or.inl ⟨?_, hcompleting.2⟩
        obtain ⟨i, hi⟩ := hcompleting.1
        refine ⟨i, ?_⟩
        by_cases hij : i = j
        · subst hij
          rw [hphase] at hi
          rw [s.setPhase_self]
          exact hi
        · rwa [s.setPhase_of_ne _ hij]
      · cases hstep

def StoredRuns (ι : Type) [DecidableEq ι] {σ : Type} (service : HumanHandoffService)
    (store : HandoffStore σ) (guard : HandoffState ι σ → HandoffEvent ι → Prop) : Prop :=
  ∀ {now events} {s : HandoffState ι σ},
    (handoffMachine service store).Along guard (.initial store now) events →
    (handoffMachine service store).run (.initial store now) events = some s →
    TokensStored service store s

theorem storedRuns_of_keeps (hstore : KeepsHandoffs store strict valid) :
    StoredRuns ι service store (Undisturbed store) := by
  intro now events s hguard hrun
  refine ((handoffMachine service store).invariant_along
    (I := fun u => (HandoffInvariant service store strict valid u ∧ ClaimInvariant store u) ∧
      TokensStored service store u)
    (fun u event v hu hguard hstep => ?_)
    ⟨⟨.initial hstore now, .initial now⟩, fun _ _ h => nomatch h⟩ hguard hrun).2
  obtain ⟨⟨h, hclaims⟩, htokens⟩ := hu
  have hcases := handoffStep_cases hstep
  exact ⟨⟨(h.step hstore hcases).2, hclaims.step hstore h hcases⟩,
    htokens.step hstore h hclaims hguard hstep⟩

end Steps

/-- A handoff under whose claim a token was issued ends completed with it. -/
structure CompletionAtomic (ι : Type) [DecidableEq ι] (service : HumanHandoffService)
    (guard : ∀ {σ}, HandoffStore σ → HandoffState ι σ → HandoffEvent ι → Prop) : Prop where
  inMemory : StoredRuns ι service inMemoryHandoffStore (guard inMemoryHandoffStore)
  redis : ∀ keyPrefix,
    StoredRuns ι service (redisHandoffStore keyPrefix) (guard (redisHandoffStore keyPrefix))
  postgres : StoredRuns ι service postgresHandoffStore (guard postgresHandoffStore)

/-! ## A token that is issued and lost -/

namespace LostToken

def service : HumanHandoffService where
  adapters := LostFailure.service.adapters
  unprotect text := .ok (some text)

/-- As in `LostFailure`, and the provider has completed when the cancellation
comes: `satisfy` returns a token before the completing update. -/
def events : List (HandoffEvent Bool) :=
  LostFailure.events.take 6 ++
    [.provider true .completed, .requirement true (some true), .satisfy true (some (js "token")),
      .call false .cancel (js "h") (js "a"), .execute false, .resume false, .resume false,
      .execute false, .resume false, .protect true (some (js "token")), .execute true,
      .resume true, .execute true, .resume true]

end LostToken

theorem token_lost_to_cancel :
    ∃ service : HumanHandoffService, ¬ CompletionAtomic Bool service fun _ _ _ => True := by
  refine ⟨LostToken.service, fun h => ?_⟩
  let M := handoffMachine (ι := Bool) LostToken.service inMemoryHandoffStore
  let start := HandoffState.initial (ι := Bool) inMemoryHandoffStore 0
  let observed (s : HandoffState Bool InMemoryHandoffs) :=
    (s.tokens.map fun issued => (issued.1.handoffId, issued.2),
      (s.stored inMemoryHandoffStore (js "h")).map StoredHumanHandoff.status,
      (s.phase true).completing.isSome, (s.phase false).completing.isSome)
  have hobserved : (M.run start LostToken.events).map observed =
      some ([(js "h", js "token")], some .cancelled, false, false) := by decide +kernel
  obtain ⟨s, hrun, hs⟩ := Option.map_eq_some_iff.mp hobserved
  simp only [observed, Prod.mk.injEq] at hs
  obtain ⟨htokens, hstored, hpoll, hcancel⟩ := hs
  obtain ⟨record, hrecord, hstatus⟩ := Option.map_eq_some_iff.mp hstored
  obtain ⟨⟨claimed, token⟩, hmem, hissued⟩ := List.mem_map.mp
    (show (js "h", js "token") ∈ s.tokens.map fun issued => (issued.1.handoffId, issued.2) by
      rw [htokens]
      exact List.mem_singleton_self _)
  have hid : claimed.handoffId = js "h" := congrArg Prod.fst hissued
  rcases h.inMemory (M.along_true _ _) hrun _ _ hmem with ⟨⟨i, hi⟩, _⟩ |
    ⟨completed, _, _, hcompleted, _, hsame | ⟨hnone, _⟩⟩
  · cases i with
    | true => simp [hi] at hpoll
    | false => simp [hi] at hcancel
  · rw [hid, hrecord] at hsame
    cases hsame
    exact nomatch hstatus.symm.trans hcompleted
  · rw [hid, hrecord] at hnone
    cases hnone

theorem completion_atomic (ι : Type) [DecidableEq ι] (service : HumanHandoffService) :
    CompletionAtomic ι service Undisturbed where
  inMemory := storedRuns_of_keeps inMemory_keepsHandoffs
  redis keyPrefix := storedRuns_of_keeps (redis_keepsHandoffs keyPrefix)
  postgres := storedRuns_of_keeps postgres_keepsHandoffs

end X424
