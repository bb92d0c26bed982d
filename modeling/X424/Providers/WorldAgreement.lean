import X424.Handoff.Completion
import X424.Providers.WorldPaths

/-!
# Brokered and direct World proofs

One World ceremony may return a proof of either World method, whichever of them
the handoff was started with.  Polling the handoff submits the proof under the
method it was started with; without a handoff the proof is labelled by its kind.
The two come to the same only when the ceremony returned the method it was
started for.
-/

namespace X424

open Foundation

inductive WorldMethod where
  | proofOfHuman
  | orbLegacy
  deriving DecidableEq, Repr

def WorldMethod.descriptor : WorldMethod → HumanMethodDescriptor
  | proofOfHuman => WORLD_ID_PROOF_OF_HUMAN_METHOD
  | orbLegacy => WORLD_ID_LEGACY_ORB_METHOD

theorem WorldMethod.methodId_injective :
    Function.Injective fun method : WorldMethod => method.descriptor.methodId := by
  rintro (_ | _) (_ | _) h
  · rfl
  · exact absurd h (by decide)
  · exact absurd h (by decide)
  · rfl

/-! ## A poll after the ceremony -/

section Poll

variable {ι τ : Type} [DecidableEq ι] {service : HumanHandoffService} {store : HandoffStore τ}
  {s : HandoffState ι τ} {i : ι} {claimed : StoredHumanHandoff} {protect : JsString → JsString}
  {token : JsString}

/-- What is left of a `poll` whose ceremony returned a proof: the requirement is still there, and
`satisfy` returns the token or throws. -/
def pollEvents (i : ι) (protect : JsString → JsString) (token : Option JsString) :
    List (HandoffEvent ι) :=
  [.provider i .completed, .requirement i (some true), .satisfy i token] ++
    (token.map fun token => .protect i (some (protect token))).toList ++ [.execute i, .resume i]

def Phase.PollCompleted (phase : Phase) : Prop :=
  ∃ handoffId token expiresAt,
    phase = .done .poll handoffId (.view (.completed handoffId token expiresAt))

/-- The worker has its proof and its requirement, and `satisfy` has answered. -/
theorem run_satisfied (token : Option JsString) (hphase : s.phase i = .polling claimed) :
    ∃ u, (handoffMachine service store).run s
        [.provider i .completed, .requirement i (some true), .satisfy i token] = some u ∧
      u.phase i = HumanHandoffService.afterSatisfy claimed s.now token ∧ u.now = s.now ∧
      u.store = s.store := by
  simp only [Machine.run_cons, handoffMachine, handoffStep, hphase, Option.bind_some,
    HandoffState.setPhase_self, HumanHandoffService.afterProvider,
    HumanHandoffService.afterRequirement, Machine.run_nil]
  exact ⟨_, rfl, HandoffState.setPhase_self _ i _, rfl, rfl⟩

theorem run_update {task : UpdateTask} {previous next : StoredHumanHandoff} {checkedAt : Instant}
    (hphase : s.phase i = .updating task previous next checkedAt) :
    ∃ t, (handoffMachine service store).run s [.execute i, .resume i] = some t ∧
      t.phase i = service.afterUpdate task previous next
        (store.update previous next checkedAt s.now s.store).1 s.now := by
  have hupdated : (s.update store i task previous next checkedAt).phase i =
      .updated task previous next (store.update previous next checkedAt s.now s.store).1 := by
    rw [HandoffState.update_phase, Function.update_self]
  have hnow : (s.update store i task previous next checkedAt).now = s.now := by
    unfold HandoffState.update
    dsimp only
    split_ifs <;> rfl
  simp only [Machine.run_cons, handoffMachine, handoffStep, hphase, Option.bind_some, hupdated,
    Machine.run_nil, hnow]
  exact ⟨_, rfl, HandoffState.setPhase_self _ i _⟩

theorem run_pollEvents_some
    (hsealed : service.unprotect (protect token) = .ok (some token))
    (hphase : s.phase i = .polling claimed)
    (hupdate : (store.update claimed (claimed.complete (protect token)) s.now s.now s.store).1 =
      .ok true) :
    ∃ t, (handoffMachine service store).run s (pollEvents i protect (some token)) = some t ∧
      (t.phase i).PollCompleted := by
  obtain ⟨u, hsatisfied, huphase, hnow, hstore⟩ :=
    @run_satisfied _ _ _ service store _ _ _ (some token) hphase
  have hopens : sealed service token (some (protect token)) := by
    rintro text ⟨⟩
    exact hsealed
  let v := u.setPhase i (.updating (.complete token) claimed (claimed.complete (protect token))
    s.now)
  have hprotect : (handoffMachine service store).run u [.protect i (some (protect token))] =
      some v := by
    simp only [Machine.run_cons, handoffMachine, handoffStep, huphase,
      HumanHandoffService.afterSatisfy, if_pos hopens, HumanHandoffService.afterProtect, hnow,
      Option.bind_some, Machine.run_nil]
    rfl
  obtain ⟨t, hrun, htphase⟩ := @run_update _ _ _ service store v i _ _ _ _
    (u.setPhase_self i _)
  refine ⟨t, ?_, ?_⟩
  · rw [pollEvents, Machine.run_append, Machine.run_append, hsatisfied, Option.bind_some,
      Option.map_some, Option.toList_some, hprotect, Option.bind_some, hrun]
  · have hreply : (store.update claimed (claimed.complete (protect token)) s.now v.now v.store).1 =
        .ok true := by
      rw [show v.now = s.now from hnow, show v.store = s.store from hstore, hupdate]
    rw [htphase, hreply]
    exact ⟨_, _, _, rfl⟩

theorem run_pollEvents_none (hphase : s.phase i = .polling claimed) :
    ∃ t, (handoffMachine service store).run s (pollEvents i protect none) = some t ∧
      ¬ (t.phase i).PollCompleted := by
  obtain ⟨u, hsatisfied, huphase, hnow, -⟩ :=
    @run_satisfied _ _ _ service store _ _ _ none hphase
  obtain ⟨t, hrun, htphase⟩ := @run_update _ _ _ service store u i _ _ _ _ huphase
  refine ⟨t, ?_, ?_⟩
  · rw [pollEvents, Machine.run_append, Machine.run_append, hsatisfied, Option.bind_some,
      Option.map_none, Option.toList_none, Machine.run_nil, Option.bind_some, hrun]
  · rintro ⟨handoffId, token, expiresAt, hdone⟩
    rw [htphase] at hdone
    generalize (store.update claimed _ s.now u.now u.store).1 = reply at hdone
    cases reply with
    | error error => cases hdone
    | ok updated => cases hdone

/-- The ceremony of a World handoff has returned a proof to the worker that polls it, and the
claim of the worker is still stored. -/
structure CeremonyReturned (store : HandoffStore τ) (document : RequirementDocument)
    (started : WorldMethod) (s : HandoffState ι τ) (i : ι) (claimed : StoredHumanHandoff) :
    Prop where
  polling : s.phase i = .polling claimed
  stored : s.stored store claimed.handoffId = some claimed
  dependencyId : claimed.dependencyId = document.dependencyId
  providerId : claimed.providerId = started.descriptor.providerId
  methodId : claimed.methodId = started.descriptor.methodId

omit [DecidableEq ι] in
theorem CeremonyReturned.update_ok {strict : Bool} {valid : Instant → τ → Prop}
    {document : RequirementDocument} {started : WorldMethod}
    (h : CeremonyReturned store document started s i claimed)
    (hstore : KeepsHandoffs store strict valid)
    (hinvariant : HandoffInvariant service store strict valid s) (text : JsString) :
    (store.update claimed (claimed.complete text) s.now s.now s.store).1 = .ok true := by
  have hphase := hinvariant.phases i
  rw [h.polling] at hphase
  have hheld : HeldClaim strict s.log claimed := hphase
  exact hstore.update_ok s.now hinvariant.valid hheld.heldOpen.nonterminal
    (StoredHumanHandoff.complete_succeeds text) hheld.heldOpen.readable h.stored

end Poll

/-! ## Both paths -/

/-- The requirement accepts both World methods and has passed `register`; the adapter and, with
it, the request material take legacy proofs. -/
structure TakesBoth (verifier : WorldVerifier) (document : RequirementDocument) : Prop where
  registered : ∃ library others registeredAt, verifier.service.checkRegistration
    (document.read verifier.issuing.runtime.dates) registeredAt
    (verifier.validateProviderRequest library document others) = .ok ()
  accepts : ∀ method : WorldMethod, acceptedWorldMethod document.accepts method.descriptor = true
  allowLegacyProofs : verifier.adapter.allowLegacyProofs = some true

section Agreement

variable {ι τ σ : Type} [DecidableEq ι]

/-- The poll completes the handoff if and only if the labelled submission is accepted, and the two
results name one method. -/
structure OutcomesAgree (service : HumanHandoffService) (store : HandoffStore τ)
    (s : HandoffState ι τ) (i : ι) (protect : JsString → JsString)
    (brokered direct : Except JsError IssuedResult) : Prop where
  completes : ∃ t, (handoffMachine service store).run s
      (pollEvents i protect (brokered.toOption.map IssuedResult.token)) = some t ∧
    ((t.phase i).PollCompleted ↔ ∃ issued, direct = .ok issued)
  method : ∀ {issued issued'}, brokered = .ok issued → direct = .ok issued' →
    issued.result.providerId = issued'.result.providerId ∧
      issued.result.methodId = issued'.result.methodId

end Agreement

def PathsAgreeIn {τ : Type} (store : HandoffStore τ) (started kind : WorldMethod) : Prop :=
  ∀ {ι σ : Type} [DecidableEq ι] {service : HumanHandoffService} {protect : JsString → JsString}
    {verifier : WorldVerifier} {submission : WorldSubmission} {clock : Instant}
    {events : List (HandoffEvent ι)} {s : HandoffState ι τ} {i : ι}
    {claimed : StoredHumanHandoff} (nonceStore : NonceStore σ)
    (replayStore : ProviderReplayStore) (nonces : σ) (spent : SpentKeys),
    TakesBoth verifier submission.document →
    descriptorForNativeProof submission.nativeProof = .ok kind.descriptor →
    (∀ token, service.unprotect (protect token) = .ok (some token)) →
    (handoffMachine service store).run (.initial store clock) events = some s →
    CeremonyReturned store submission.document started s i claimed →
    OutcomesAgree service store s i protect
      (verifier.submit submission nonceStore replayStore claimed.methodId nonces spent).1
      (verifier.submitResolved submission nonceStore replayStore nonces spent).1

/-- A handoff started with one World method, whose ceremony returns a proof of another or the
same, comes to what the direct submission of the proof comes to. -/
structure PathsAgree (started kind : WorldMethod) : Prop where
  inMemory : PathsAgreeIn inMemoryHandoffStore started kind
  redis : ∀ keyPrefix, PathsAgreeIn (redisHandoffStore keyPrefix) started kind
  postgres : PathsAgreeIn postgresHandoffStore started kind

section Proof

variable {ι τ σ : Type} [DecidableEq ι] {service : HumanHandoffService} {store : HandoffStore τ}
  {strict : Bool} {valid : Instant → τ → Prop} {protect : JsString → JsString}
  {verifier : WorldVerifier} {submission : WorldSubmission} {started kind : WorldMethod}
  {clock : Instant} {events : List (HandoffEvent ι)} {s : HandoffState ι τ} {i : ι}
  {claimed : StoredHumanHandoff} {nonceStore : NonceStore σ} {replayStore : ProviderReplayStore}
  {nonces : σ} {spent : SpentKeys}

/-- A poll completes the handoff exactly when `satisfy` returns a token. -/
theorem completed_iff_satisfied (hstore : KeepsHandoffs store strict valid)
    (hsealed : ∀ token, service.unprotect (protect token) = .ok (some token))
    (hrun : (handoffMachine service store).run (.initial store clock) events = some s)
    (hreturned : CeremonyReturned store submission.document started s i claimed)
    (brokered : Except JsError IssuedResult) :
    ∃ t, (handoffMachine service store).run s
        (pollEvents i protect (brokered.toOption.map IssuedResult.token)) = some t ∧
      ((t.phase i).PollCompleted ↔ ∃ issued, brokered = .ok issued) := by
  have hinvariant : HandoffInvariant service store strict valid s :=
    (handoffMachine service store).invariant_along
      (fun _ _ _ h _ hstep => (h.step hstore (handoffStep_cases hstep)).2)
      (.initial hstore clock) ((handoffMachine service store).along_true _ _) hrun
  cases brokered with
  | ok issued =>
      obtain ⟨t, ht, hcompleted⟩ := run_pollEvents_some (hsealed issued.token) hreturned.polling
        (hreturned.update_ok hstore hinvariant (protect issued.token))
      exact ⟨t, ht, iff_of_true hcompleted ⟨issued, rfl⟩⟩
  | error error =>
      obtain ⟨t, ht, hopen⟩ := @run_pollEvents_none _ _ _ service store _ _ _ protect
        hreturned.polling
      exact ⟨t, ht, iff_of_false hopen (by rintro ⟨issued, ⟨⟩⟩)⟩

/-- A proof of the method that the handoff was started with has one outcome for both. -/
theorem submit_iff_submitResolved (hboth : TakesBoth verifier submission.document)
    (hkind : descriptorForNativeProof submission.nativeProof = .ok kind.descriptor)
    {issued : IssuedResult} :
    (verifier.submit submission nonceStore replayStore kind.descriptor.methodId nonces
        spent).1 = .ok issued ↔
      (verifier.submitResolved submission nonceStore replayStore nonces spent).1 =
        .ok issued := by
  obtain ⟨library, others, registeredAt, hregistered⟩ := hboth.registered
  constructor
  · intro hissued
    exact congrArg Prod.fst ((submit_eq_ok_iff hregistered).mp (Prod.ext hissued rfl)).2
  · intro hissued
    exact congrArg Prod.fst ((submit_eq_ok_iff hregistered).mpr
      ⟨⟨kind.descriptor, hkind, rfl⟩, Prod.ext hissued rfl⟩)

theorem pathsAgreeIn_same (hstore : KeepsHandoffs store strict valid) (method : WorldMethod) :
    PathsAgreeIn store method method := by
  intro ι σ _ service protect verifier submission clock events s i claimed nonceStore replayStore
    nonces spent hboth hkind hsealed hrun hreturned
  rw [hreturned.methodId]
  have hsame : ∀ {issued}, (verifier.submit submission nonceStore replayStore
      method.descriptor.methodId nonces spent).1 = .ok issued ↔
        (verifier.submitResolved submission nonceStore replayStore nonces spent).1 = .ok issued :=
    submit_iff_submitResolved hboth hkind
  refine ⟨?_, fun hissued hissued' => ?_⟩
  · obtain ⟨t, ht, hcompleted⟩ := completed_iff_satisfied hstore hsealed hrun hreturned _
    exact ⟨t, ht, hcompleted.trans (exists_congr fun _ => hsame)⟩
  · cases (hsame.mp hissued).symm.trans hissued'
    exact ⟨rfl, rfl⟩

/-- In a handoff started with the other method the poll does not complete, whatever the direct
submission comes to. -/
theorem not_completed_of_mismatched (hstore : KeepsHandoffs store strict valid)
    (hkind : descriptorForNativeProof submission.nativeProof = .ok kind.descriptor)
    (hother : kind ≠ started)
    (hsealed : ∀ token, service.unprotect (protect token) = .ok (some token))
    (hrun : (handoffMachine service store).run (.initial store clock) events = some s)
    (hreturned : CeremonyReturned store submission.document started s i claimed) :
    ∃ t, (handoffMachine service store).run s (pollEvents i protect
        ((verifier.submit submission nonceStore replayStore claimed.methodId nonces
          spent).1.toOption.map IssuedResult.token)) = some t ∧
      ¬ (t.phase i).PollCompleted := by
  obtain ⟨t, ht, hcompleted⟩ := completed_iff_satisfied hstore hsealed hrun hreturned
    (verifier.submit submission nonceStore replayStore claimed.methodId nonces spent).1
  refine ⟨t, ht, fun hdone => ?_⟩
  obtain ⟨issued, hissued⟩ := hcompleted.mp hdone
  obtain ⟨error, hrefused⟩ := @submit_mismatched verifier submission claimed.methodId _ nonceStore
    replayStore nonces spent fun descriptor hdescriptor => by
      cases hkind.symm.trans hdescriptor
      rw [hreturned.methodId]
      exact fun h => hother (WorldMethod.methodId_injective h)
  rw [hrefused] at hissued
  cases hissued

end Proof

/-! ## One handoff, and a proof of either kind -/

namespace WorldCeremony

def humanProof : Json :=
  .object [(js "protocol_version", .string (js "4.0")), (js "action", .string (js "vote")),
    (js "environment", .string (js "production")), (js "nonce", .string (js "0x01")),
    (js "responses", .array [.object [(js "identifier", .string (js "proof_of_human")),
      (js "signal_hash", .string (js "0xcaller")), (js "proof", .array [.string (js "0x04")]),
      (js "issuer_schema_id", .number 1), (js "nullifier", .string (js "0x05"))]])]

def humanAnswer : Json :=
  .object [(js "success", .bool true), (js "action", .string (js "vote")),
    (js "environment", .string (js "production")),
    (js "results", .array [.object [(js "identifier", .string (js "proof_of_human")),
      (js "nullifier", .string (js "0x05")), (js "success", .bool true)]])]

def submission : WorldMethod → WorldSubmission
  | .orbLegacy => OrbCeremony.submission
  | .proofOfHuman =>
      { OrbCeremony.submission with
        nativeProof := humanProof
        surroundings :=
          { OrbCeremony.submission.surroundings with verifyRemote := fun _ => .ok humanAnswer } }

theorem document_submission (kind : WorldMethod) :
    (submission kind).document = LegacyProfile.requirement := by
  cases kind <;> rfl

def service : HumanHandoffService where
  adapters providerId := if providerId = js "world" then
    some (WorldIdAdapter.methods.map HumanMethodDescriptor.methodId) else none
  unprotect text := .ok (some text)

def started : StartedProviderHandoff where
  presentation := ⟨js "https://world.org/verify", none⟩
  protectedState := js "x"
  expiresAt := some 300000
  pollAfterMs := none

def events (method : WorldMethod) : List (HandoffEvent Unit) :=
  [.start (some (LegacyProfile.requirement.read writtenDates))
      ⟨js "dependency", js "nonce", js "world", method.descriptor.methodId⟩ started (js "h")
      (js "a") 0 0,
    .call () .poll (js "h") (js "a"), .execute (), .resume (), .execute (), .resume ()]

def claimed (method : WorldMethod) : StoredHumanHandoff where
  handoffId := js "h"
  dependencyId := js "dependency"
  providerId := js "world"
  methodId := method.descriptor.methodId
  accessTokenDigest := js "a"
  status := .polling
  pollClaimExpiresAt := some 10000
  presentation := started.presentation
  protectedState := started.protectedState
  protectedCompletion := none
  failureCode := none
  pollAfterMs := some 1000
  expiresAt := 300000
  version := 2

def pollingClaim? : Phase → Option StoredHumanHandoff
  | .polling claimed => some claimed
  | _ => none

theorem eq_polling {phase : Phase} {claimed : StoredHumanHandoff}
    (h : pollingClaim? phase = some claimed) : phase = .polling claimed := by
  unfold pollingClaim? at h
  split at h
  · cases h
    rfl
  · cases h

theorem returned (method : WorldMethod) :
    ∃ s, (handoffMachine service inMemoryHandoffStore).run (.initial inMemoryHandoffStore 0)
        (events method) = some s ∧
      CeremonyReturned inMemoryHandoffStore LegacyProfile.requirement method s ()
        (claimed method) := by
  let observed (s : HandoffState Unit InMemoryHandoffs) :=
    (pollingClaim? (s.phase ()), s.stored inMemoryHandoffStore (js "h"))
  have hobserved : ((handoffMachine service inMemoryHandoffStore).run
      (.initial inMemoryHandoffStore 0) (events method)).map observed =
        some (some (claimed method), some (claimed method)) := by
    cases method <;> decide +kernel
  obtain ⟨s, hrun, hs⟩ := Option.map_eq_some_iff.mp hobserved
  obtain ⟨hpolling, hstored⟩ := Prod.mk.inj hs
  exact ⟨s, hrun, eq_polling hpolling, hstored, rfl, by cases method <;> rfl, rfl⟩

theorem takesBoth : TakesBoth OrbCeremony.verifier LegacyProfile.requirement where
  registered := ⟨LegacyProfile.library, fun _ => .ok (), 1000, by decide +kernel⟩
  accepts method := by cases method <;> decide
  allowLegacyProofs := rfl

theorem kind_submission (kind : WorldMethod) :
    descriptorForNativeProof (submission kind).nativeProof = .ok kind.descriptor := by
  cases kind <;> decide +kernel

theorem accepted (kind : WorldMethod) :
    ∃ issued, (OrbCeremony.verifier.submitResolved (submission kind) inMemoryNonceStore
      inMemoryProviderReplayStore OrbCeremony.nonces []).1 = .ok issued := by
  have haccepted : (OrbCeremony.verifier.submitResolved (submission kind) inMemoryNonceStore
      inMemoryProviderReplayStore OrbCeremony.nonces []).1.toBool = true := by
    cases kind <;> decide +kernel
  cases hdirect : (OrbCeremony.verifier.submitResolved (submission kind) inMemoryNonceStore
      inMemoryProviderReplayStore OrbCeremony.nonces []).1 with
  | error error =>
      rw [hdirect] at haccepted
      cases haccepted
  | ok issued => exact ⟨issued, rfl⟩

theorem disagree {started kind : WorldMethod} (hother : kind ≠ started) :
    ¬ PathsAgree started kind := by
  intro h
  obtain ⟨s, hrun, hreturned⟩ := returned started
  rw [← document_submission kind] at hreturned
  obtain ⟨t, ht, hopen⟩ := not_completed_of_mismatched inMemory_keepsHandoffs
    (kind_submission kind) hother (fun _ => rfl) hrun hreturned
  obtain ⟨⟨u, hu, hcompleted⟩, -⟩ := h.inMemory inMemoryNonceStore inMemoryProviderReplayStore
    OrbCeremony.nonces [] (document_submission kind ▸ takesBoth) (kind_submission kind)
    (fun _ => rfl) hrun hreturned
  cases ht.symm.trans hu
  exact hopen (hcompleted.mpr (accepted kind))

end WorldCeremony

end X424
