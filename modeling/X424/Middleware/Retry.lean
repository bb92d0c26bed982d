import X424.Middleware.Acceptance
import X424.Middleware.SingleOperation
import X424.RequirementLaws

/-!
# Retries of an accepted mutation

A mutation that was accepted with its `Idempotency-Key` is accepted again until
its result expires, whatever is presented in between: its requirement stays,
because only reads delete theirs, and the acceptance entry of its result stays
until it expires.  The entry is that of the first operation to claim the
result id, and it expires with the result of that operation.
-/

namespace X424

open Foundation

/-! ## The in-memory acceptance store -/

section Accept

variable {input : ResultAcceptanceInput} {checkedAt now e : Instant} {id : JsString}
  {operation : AcceptedOperation} {accepted : Cells JsString AcceptedOperation}

theorem accept_keeps (h : accepted id = some ⟨operation, e⟩) (hlive : checkedAt < e) :
    (inMemoryResultAcceptanceStore.accept input checkedAt now accepted).2 id =
      some ⟨operation, e⟩ := by
  have hpruned : (accepted.prune checkedAt) id = some ⟨operation, e⟩ :=
    Cells.live_eq_some.mpr ⟨h, hlive⟩
  simp only [inMemoryResultAcceptanceStore, InMemoryResultAcceptanceStore.accept]
  cases input.expiresAt with
  | none => exact h
  | some expiresAtMs =>
      simp only
      split_ifs
      · exact h
      · cases hexisting : (accepted.prune checkedAt) input.resultId with
        | some existing => exact hpruned
        | none =>
            have hne : id ≠ input.resultId := by
              rintro rfl
              rw [hpruned] at hexisting
              cases hexisting
            simpa only [Cells.put, Function.update_of_ne hne] using hpruned

theorem accept_entry (hexpires : input.expiresAt = some e)
    (haccepted : acceptedReply
      (inMemoryResultAcceptanceStore.accept input checkedAt now accepted).1)
    (hlasts : ∀ cell, accepted.live checkedAt input.resultId = some cell → e ≤ cell.expiresAt) :
    input.wellFormed ∧ ∃ e', e ≤ e' ∧
      (inMemoryResultAcceptanceStore.accept input checkedAt now accepted).2 input.resultId =
        some ⟨input.operation, e'⟩ := by
  simp only [inMemoryResultAcceptanceStore, InMemoryResultAcceptanceStore.accept, hexpires]
    at haccepted ⊢
  split_ifs at haccepted ⊢ with hrefused
  · simp at haccepted
  · rw [Bool.or_eq_true, not_or, Bool.not_eq_true, Bool.not_eq_false'] at hrefused
    refine ⟨hrefused.1, ?_⟩
    cases hexisting : (accepted.prune checkedAt) input.resultId with
    | none => exact ⟨e, Int.le_refl e, by simp [Cells.put]⟩
    | some existing =>
        simp only [hexisting, acceptedReply_ok, AcceptedOperation.statusFor_eq, ne_eq,
          ite_eq_right_iff, reduceCtorEq, imp_false, not_not] at haccepted
        refine ⟨existing.expiresAt, hlasts existing hexisting, ?_⟩
        rw [← haccepted]
        exact hexisting

theorem accept_again (hwellFormed : input.wellFormed) (hexpires : input.expiresAt = some e)
    (hlive : checkedAt < e) {e' : Instant} (hle : e ≤ e')
    (hentry : accepted input.resultId = some ⟨input.operation, e'⟩) :
    acceptedReply (inMemoryResultAcceptanceStore.accept input checkedAt now accepted).1 := by
  have hpruned : (accepted.prune checkedAt) input.resultId = some ⟨input.operation, e'⟩ :=
    Cells.live_eq_some.mpr ⟨hentry, Int.lt_of_lt_of_le hlive hle⟩
  simp [inMemoryResultAcceptanceStore, InMemoryResultAcceptanceStore.accept, hexpires,
    hwellFormed, Int.not_le.mpr hlive, hpruned]

end Accept

/-! ## One keyed mutation -/

section Presentation

variable {ρ σ : Type} {sha256 : JsString → JsString}
  {options : ProtectOptions ρ σ (Cells JsString AcceptedOperation)}
  {request : ProtectedRequest} {times : PresentationTimes}
  {s : ResourceStores ρ σ (Cells JsString AcceptedOperation)}
  {requirement : HumanRequirement} {result : HumanResult} {operationId : JsString}

def HumanResult.acceptanceInput (result : HumanResult) (operationId : JsString) :
    ResultAcceptanceInput :=
  ⟨result.resultId, operationId, result.requestDigest, result.expiresAt⟩

theorem spendResult_keyed
    (hstore : options.resultAcceptanceStore = some inMemoryResultAcceptanceStore)
    (hmutation : request.mutation = true) (hkey : request.operationId = some operationId)
    (checkedAt now : Instant) (replays : σ) (acceptances : Cells JsString AcceptedOperation) :
    options.spendResult request result checkedAt now replays acceptances =
      ProtectOptions.acceptanceOutcome
        (inMemoryResultAcceptanceStore.accept (result.acceptanceInput operationId) checkedAt now
          acceptances) replays := by
  simp only [ProtectOptions.spendResult, hstore, hkey, hmutation, HumanResult.acceptanceInput]

structure AcceptedKeyed (sha256 : JsString → JsString)
    (options : ProtectOptions ρ σ (Cells JsString AcceptedOperation))
    (request : ProtectedRequest) (times : PresentationTimes)
    (s : ResourceStores ρ σ (Cells JsString AcceptedOperation)) (requirement : HumanRequirement)
    (result : HumanResult) (operationId : JsString) (requirements : ρ) : Prop where
  preview : options.previewToken request = .ok result
  found : options.requirementStore.get result.dependencyId times.startedAt times.lookedUpAt
    s.requirements = (.ok (some requirement), requirements)
  checked : options.checkPresentation request sha256 requirement times.startedAt = .ok result
  named : requirement.dependencyId = result.dependencyId
  reply : acceptedReply (inMemoryResultAcceptanceStore.accept
    (result.acceptanceInput operationId) times.startedAt times.spentAt s.acceptances).1
  stores : (options.acceptHumanProof sha256 request times s).2 =
    ⟨requirements, s.replays, (inMemoryResultAcceptanceStore.accept
      (result.acceptanceInput operationId) times.startedAt times.spentAt s.acceptances).2⟩

theorem settle_keyed
    (hstore : options.resultAcceptanceStore = some inMemoryResultAcceptanceStore)
    (hmutation : request.mutation = true) (hkey : request.operationId = some operationId) :
    options.settle request times requirement result s =
      let reply := inMemoryResultAcceptanceStore.accept (result.acceptanceInput operationId)
        times.startedAt times.spentAt s.acceptances
      ((ProtectOptions.acceptanceOutcome reply s.replays).1.map fun _ => (requirement, result),
        { s with acceptances := reply.2 }) := by
  simp only [ProtectOptions.settle, spendResult_keyed hstore hmutation hkey,
    ProtectOptions.acceptanceOutcome_snd, hmutation, if_true]
  cases (ProtectOptions.acceptanceOutcome (inMemoryResultAcceptanceStore.accept
    (result.acceptanceInput operationId) times.startedAt times.spentAt s.acceptances)
    s.replays).1 <;> rfl

theorem acceptedKeyed
    (hstore : options.resultAcceptanceStore = some inMemoryResultAcceptanceStore)
    (hmutation : request.mutation = true) (hkey : request.operationId = some operationId)
    (haccepted : (options.acceptHumanProof sha256 request times s).1 =
      .ok (requirement, result)) :
    ∃ requirements, AcceptedKeyed sha256 options request times s requirement result operationId
      requirements := by
  rcases options.acceptHumanProof_cases sha256 request times s with
    ⟨error, _, haccept⟩ | ⟨preview, reply, requirements, hpreview, hget, hafter⟩
  · rw [haccept] at haccepted
    cases haccepted
  · rcases hafter with ⟨_, error, haccept⟩ | ⟨found, hreply, ⟨error, _, haccept⟩ |
      ⟨checked, hcheck, haccept⟩⟩
    · rw [haccept] at haccepted
      cases haccepted
    · rw [haccept] at haccepted
      cases haccepted
    · obtain ⟨rfl, hnamed⟩ := ProtectOptions.dependencyId_of_checked hpreview hcheck
      have hsettle :=
        @settle_keyed ρ σ options request times { s with requirements := requirements }
        found checked _ hstore hmutation hkey
      rw [haccept, hsettle] at haccepted
      cases houtcome : (ProtectOptions.acceptanceOutcome (inMemoryResultAcceptanceStore.accept
          (checked.acceptanceInput operationId) times.startedAt times.spentAt s.acceptances)
          s.replays).1 with
      | error error =>
          simp only [houtcome] at haccepted
          cases haccepted
      | ok _ =>
          simp only [houtcome] at haccepted
          cases haccepted
          exact ⟨requirements,
            { preview := hpreview
              found := by rw [hget, hreply]
              checked := hcheck
              named := hnamed
              reply := ProtectOptions.acceptanceOutcome_eq_ok.mp houtcome
              stores := by rw [haccept, hsettle] }⟩

end Presentation

/-! ## Other presentations -/

section Between

variable {ρ σ : Type} {sha256 : JsString → JsString}
  {options : ProtectOptions ρ σ (Cells JsString AcceptedOperation)}
  {request : ProtectedRequest} {times : PresentationTimes}
  {s : ResourceStores ρ σ (Cells JsString AcceptedOperation)}
  {valid : ρ → Prop} {entry : ρ → JsString → Option HumanRequirement}
  {requirement : HumanRequirement} {resultId : JsString} {operation : AcceptedOperation}
  {e : Instant}

/-- A mutation's requirement, which lasts until `e`. -/
def HumanRequirement.LastsForMutation (requirement : HumanRequirement) (e : Instant) : Prop :=
  readMethods.contains requirement.resource.method = false ∧
    ∃ expiresAt, requirement.expiresAt = some expiresAt ∧ e ≤ expiresAt

structure Retained (valid : ρ → Prop) (entry : ρ → JsString → Option HumanRequirement)
    (requirement : HumanRequirement) (resultId : JsString) (operation : AcceptedOperation)
    (e : Instant) (s : ResourceStores ρ σ (Cells JsString AcceptedOperation)) : Prop where
  valid : valid s.requirements
  requirement : entry s.requirements requirement.dependencyId = some requirement
  acceptance : ∃ e', e ≤ e' ∧ s.acceptances resultId = some ⟨operation, e'⟩

theorem HumanRequirement.LastsForMutation.unlapsed (h : requirement.LastsForMutation e)
    {now : Instant} (hnow : now < e) : requirement.lapsed (fun time => time) now = false := by
  obtain ⟨_, expiresAt, hexpires, hle⟩ := h
  rw [HumanRequirement.lapsed, Option.map_id', hexpires]
  exact decide_eq_false (Int.not_le.mpr (Int.lt_of_lt_of_le hnow hle))

theorem HumanRequirement.LastsForMutation.kept (h : requirement.LastsForMutation e)
    {now : Instant} (hnow : now < e) {before after : Option HumanRequirement}
    (hbefore : before = some requirement)
    (hkept : EntryKept (fun time => time) now before after) : after = some requirement := by
  rcases hkept with heq | ⟨_, found, hfound, hlapsed⟩
  · exact heq.trans hbefore
  · rw [hbefore, Option.some.injEq] at hfound
    subst hfound
    rw [h.unlapsed hnow] at hlapsed
    cases hlapsed

theorem Retained.get
    (hkeeps : KeepsRequirements options.requirementStore valid entry fun time => time)
    (hlasts : requirement.LastsForMutation e)
    (h : Retained valid entry requirement resultId operation e s) (dependencyId : JsString)
    {checkedAt now : Instant} (hle : checkedAt ≤ now) (hnow : now < e) :
    Retained valid entry requirement resultId operation e
      { s with
        requirements :=
          (options.requirementStore.get dependencyId checkedAt now s.requirements).2 } := by
  obtain ⟨hvalid, hkept, _⟩ := hkeeps.get dependencyId h.valid hle
  exact ⟨hvalid, hlasts.kept hnow h.requirement (hkept requirement.dependencyId), h.acceptance⟩

theorem Retained.spend
    (hstore : options.resultAcceptanceStore = some inMemoryResultAcceptanceStore)
    (h : Retained valid entry requirement resultId operation e s) (result : HumanResult)
    {checkedAt now : Instant} (hchecked : checkedAt < e) :
    Retained valid entry requirement resultId operation e
      { s with
        replays := (options.spendResult request result checkedAt now s.replays
          s.acceptances).2.1
        acceptances := (options.spendResult request result checkedAt now s.replays
          s.acceptances).2.2 } := by
  obtain ⟨e', hle, hentry⟩ := h.acceptance
  rcases options.spendResult_cases request result with
    ⟨store, operationId, hsome, _, _, hspend⟩ | ⟨store, _, _, hspend⟩ | ⟨_, _, hspend⟩
  · rw [hstore, Option.some.injEq] at hsome
    subst hsome
    refine ⟨h.valid, h.requirement, e', hle, ?_⟩
    simp only [hspend, ProtectOptions.acceptanceOutcome_snd]
    exact accept_keeps hentry (Int.lt_of_lt_of_le hchecked hle)
  · refine ⟨h.valid, h.requirement, e', hle, ?_⟩
    simpa only [hspend, ProtectOptions.consumptionOutcome_snd] using hentry
  · refine ⟨h.valid, h.requirement, e', hle, ?_⟩
    simpa only [hspend] using hentry

theorem Retained.delete
    (hkeeps : KeepsRequirements options.requirementStore valid entry fun time => time)
    (h : Retained valid entry requirement resultId operation e s) {dependencyId : JsString}
    (hne : dependencyId ≠ requirement.dependencyId) (now : Instant) :
    Retained valid entry requirement resultId operation e
      { s with requirements := (options.requirementStore.delete dependencyId now s.requirements).2 }
    := by
  obtain ⟨hvalid, _, hothers⟩ := hkeeps.delete dependencyId now h.valid
  exact ⟨hvalid, (hothers _ (Ne.symm hne)).trans h.requirement, h.acceptance⟩

theorem Retained.settle
    (hkeeps : KeepsRequirements options.requirementStore valid entry fun time => time)
    (hstore : options.resultAcceptanceStore = some inMemoryResultAcceptanceStore)
    (h : Retained valid entry requirement resultId operation e s) {found : HumanRequirement}
    {result : HumanResult} (hread : request.mutation = false →
      found.dependencyId ≠ requirement.dependencyId) (hchecked : times.startedAt < e) :
    Retained valid entry requirement resultId operation e
      (options.settle request times found result s).2 := by
  have hspent :=
    @Retained.spend ρ σ options request _ _ _ _ _ _ _ hstore h result _ times.spentAt hchecked
  simp only [ProtectOptions.settle]
  cases (options.spendResult request result times.startedAt times.spentAt s.replays
      s.acceptances).1 with
  | error error => exact hspent
  | ok _ =>
      cases hmutation : request.mutation with
      | true => exact hspent
      | false => exact hspent.delete hkeeps (hread hmutation) times.endedAt

theorem Retained.acceptHumanProof
    (hkeeps : KeepsRequirements options.requirementStore valid entry fun time => time)
    (hstore : options.resultAcceptanceStore = some inMemoryResultAcceptanceStore)
    (hlasts : requirement.LastsForMutation e)
    (h : Retained valid entry requirement resultId operation e s) (htimes : times.Ordered)
    (hended : times.endedAt < e) :
    Retained valid entry requirement resultId operation e
      (options.acceptHumanProof sha256 request times s).2 := by
  obtain ⟨hlooked, hspent, hend⟩ := htimes
  have hlookedAt : times.lookedUpAt < e :=
    Int.lt_of_le_of_lt (Int.le_trans hspent hend) hended
  rcases options.acceptHumanProof_cases sha256 request times s with
    ⟨error, _, haccept⟩ | ⟨preview, reply, requirements, hpreview, hget, hafter⟩
  · rw [haccept]
    exact h
  · have hgot := h.get hkeeps hlasts preview.dependencyId hlooked hlookedAt
    rw [hget] at hgot
    rcases hafter with ⟨_, error, haccept⟩ | ⟨found, hreply, ⟨error, _, haccept⟩ |
      ⟨result, hcheck, haccept⟩⟩
    · rw [haccept]
      exact hgot
    · rw [haccept]
      exact hgot
    · rw [haccept]
      refine hgot.settle hkeeps hstore (fun hread hid => ?_)
        (Int.lt_of_le_of_lt hlooked hlookedAt)
      obtain ⟨_, hnamed⟩ := ProtectOptions.dependencyId_of_checked hpreview hcheck
      have hfound : entry s.requirements preview.dependencyId = some found :=
        ((hkeeps.get preview.dependencyId h.valid hlooked).2.2.1 found (by rw [hget, hreply])).1
      rw [← hnamed, hid, h.requirement, Option.some.injEq] at hfound
      subst hfound
      have hmethod := (ProtectOptions.assertCurrentMatchesStored_eq_ok.mp
        (ProtectOptions.checkPresentation_eq_ok.mp hcheck).1).2.2.1
      have hmutating := hlasts.1
      rw [hmethod] at hmutating
      rw [ProtectedRequest.mutation, hmutating] at hread
      cases hread

theorem Retained.run
    (hkeeps : KeepsRequirements options.requirementStore valid entry fun time => time)
    (hstore : options.resultAcceptanceStore = some inMemoryResultAcceptanceStore)
    (hlasts : requirement.LastsForMutation e)
    {u v : Instant × ResourceStores ρ σ (Cells JsString AcceptedOperation)} {es : List Presented}
    (h : Retained valid entry requirement resultId operation e u.2)
    (hrun : (presentationMachine sha256 options).run u es = some v) (hbefore : v.1 < e) :
    Retained valid entry requirement resultId operation e v.2 := by
  refine Machine.invariant_run _
    (I := fun w => w.1 < e → Retained valid entry requirement resultId operation e w.2)
    (fun w event w' hw hstep hend => ?_) (fun _ => h) hrun hbefore
  obtain ⟨hstart, hordered, rfl⟩ := presentationMachine_step hstep
  have hclock : w.1 ≤ event.2.endedAt := Int.le_trans hstart hordered.started_le_ended
  exact (hw (Int.lt_of_le_of_lt hclock hend)).acceptHumanProof hkeeps hstore hlasts hordered hend

end Between

/-! ## The retry -/

section Retry

variable {ρ σ : Type} {sha256 : JsString → JsString}
  {options : ProtectOptions ρ σ (Cells JsString AcceptedOperation)}
  {valid : ρ → Prop} {entry : ρ → JsString → Option HumanRequirement}

structure AcceptedFirst (sha256 : JsString → JsString)
    (options : ProtectOptions ρ σ (Cells JsString AcceptedOperation))
    (s : ResourceStores ρ σ (Cells JsString AcceptedOperation)) (request : ProtectedRequest)
    (times : PresentationTimes) (requirement : HumanRequirement) (result : HumanResult)
    (e : Instant) : Prop where
  mutation : request.mutation = true
  keyed : request.operationId.isSome
  ordered : times.Ordered
  accepted : (options.acceptHumanProof sha256 request times s).1 = .ok (requirement, result)
  expires : result.expiresAt = some e

/-- The acceptance store holds no entry of the result id that expires before the result. -/
def ClaimedInFull (s : ResourceStores ρ σ (Cells JsString AcceptedOperation))
    (times : PresentationTimes) (result : HumanResult) (e : Instant) : Prop :=
  ∀ cell, s.acceptances.live times.startedAt result.resultId = some cell → e ≤ cell.expiresAt

/-- A time at which the result neither has expired nor is too old. -/
structure StillValid (requirement : HumanRequirement) (result : HumanResult) (e : Instant)
    (times : PresentationTimes) : Prop where
  ordered : times.Ordered
  unexpired : times.lookedUpAt < e
  fresh : ∀ accepted, matchingMethod requirement result = some accepted →
    proofStale accepted.maximumProofAgeSeconds result.verifiedAt times.startedAt = false

theorem AcceptedFirst.retained
    (hkeeps : KeepsRequirements options.requirementStore valid entry fun time => time)
    (hstore : options.resultAcceptanceStore = some inMemoryResultAcceptanceStore)
    {s : ResourceStores ρ σ (Cells JsString AcceptedOperation)} (hvalid : valid s.requirements)
    {request : ProtectedRequest} {times : PresentationTimes} {requirement : HumanRequirement}
    {result : HumanResult} {e : Instant} {operationId : JsString}
    (hkey : request.operationId = some operationId)
    (h : AcceptedFirst sha256 options s request times requirement result e)
    (hclaimed : ClaimedInFull s times result e) (hbefore : times.lookedUpAt < e) :
    options.previewToken request = .ok result ∧
      options.checkPresentation request sha256 requirement times.startedAt = .ok result ∧
      requirement.dependencyId = result.dependencyId ∧
      requirement.LastsForMutation e ∧ (result.acceptanceInput operationId).wellFormed ∧
      Retained valid entry requirement result.resultId
        (result.acceptanceInput operationId).operation e
        (options.acceptHumanProof sha256 request times s).2 := by
  obtain ⟨requirements, hfirst⟩ := acceptedKeyed hstore h.mutation hkey h.accepted
  obtain ⟨hcurrent, hproof⟩ := ProtectOptions.checkPresentation_eq_ok.mp hfirst.checked
  obtain ⟨_, _, hsatisfied⟩ := ProtectOptions.verifyHumanProof_eq_ok.mp hproof
  have hlasts : requirement.LastsForMutation e := by
    refine ⟨?_, expiresAt_le_of_satisfied hsatisfied h.expires⟩
    rw [(ProtectOptions.assertCurrentMatchesStored_eq_ok.mp hcurrent).2.2.1]
    simpa [ProtectedRequest.mutation] using h.mutation
  obtain ⟨hwellFormed, e', hle, hentry⟩ :=
    @accept_entry (result.acceptanceInput operationId) _ _ _ _ h.expires hfirst.reply hclaimed
  obtain ⟨hvalid', hkept, hshown, _⟩ := hkeeps.get result.dependencyId hvalid h.ordered.1
  have hfound := (hshown requirement (by rw [hfirst.found])).1
  rw [hfirst.found] at hvalid' hkept
  refine ⟨hfirst.preview, hfirst.checked, hfirst.named, hlasts, hwellFormed, ?_⟩
  rw [hfirst.stores]
  refine ⟨hvalid', ?_, e', hle, hentry⟩
  rw [← hfirst.named] at hfound
  exact hlasts.kept hbefore hfound (hkept requirement.dependencyId)

theorem Retained.accepted
    (hkeeps : KeepsRequirements options.requirementStore valid entry fun time => time)
    (hstore : options.resultAcceptanceStore = some inMemoryResultAcceptanceStore)
    {s : ResourceStores ρ σ (Cells JsString AcceptedOperation)} {request : ProtectedRequest}
    {times : PresentationTimes} {requirement : HumanRequirement} {result : HumanResult}
    {e : Instant} {operationId : JsString} (hmutation : request.mutation = true)
    (hkey : request.operationId = some operationId)
    (hpreview : options.previewToken request = .ok result)
    (hcheck : options.checkPresentation request sha256 requirement times.startedAt = .ok result)
    (hnamed : requirement.dependencyId = result.dependencyId)
    (hlasts : requirement.LastsForMutation e)
    (hwellFormed : (result.acceptanceInput operationId).wellFormed)
    (hexpires : result.expiresAt = some e)
    (h : Retained valid entry requirement result.resultId
      (result.acceptanceInput operationId).operation e s)
    (htimes : times.Ordered) (hbefore : times.lookedUpAt < e) :
    (options.acceptHumanProof sha256 request times s).1 = .ok (requirement, result) := by
  obtain ⟨_, _, _, hshows⟩ := hkeeps.get requirement.dependencyId h.valid htimes.1
  have hfound := hshows requirement h.requirement (hlasts.unlapsed hbefore)
  rw [hnamed] at hfound
  obtain ⟨e', hle, hentry⟩ := h.acceptance
  have hchecked : times.startedAt < e := Int.lt_of_le_of_lt htimes.1 hbefore
  have hagain := @accept_again _ _ times.spentAt _ _ hwellFormed hexpires hchecked _ hle hentry
  simp only [ProtectOptions.acceptHumanProof, hpreview, hfound, hcheck,
    settle_keyed hstore hmutation hkey]
  rw [ProtectOptions.acceptanceOutcome_eq_ok.mpr hagain]
  rfl

/-- A keyed mutation that was accepted when `admits` held is accepted again until its
result expires, whatever is presented in between. -/
def RetriesAccepted (sha256 : JsString → JsString)
    (options : ProtectOptions ρ σ (Cells JsString AcceptedOperation)) (valid : ρ → Prop)
    (admits : ResourceStores ρ σ (Cells JsString AcceptedOperation) → PresentationTimes →
      HumanResult → Instant → Prop) : Prop :=
  ∀ ⦃u v : Instant × ResourceStores ρ σ (Cells JsString AcceptedOperation)⦄
    ⦃request : ProtectedRequest⦄ ⦃times : PresentationTimes⦄ ⦃requirement : HumanRequirement⦄
    ⦃result : HumanResult⦄ ⦃e : Instant⦄ ⦃others : List Presented⦄ ⦃retry : PresentationTimes⦄,
    valid u.2.requirements →
    AcceptedFirst sha256 options u.2 request times requirement result e →
    admits u.2 times result e →
    (presentationMachine sha256 options).run u ((request, times) :: others) = some v →
    v.1 ≤ retry.startedAt → StillValid requirement result e retry →
    (options.acceptHumanProof sha256 request retry v.2).1 = .ok (requirement, result)

end Retry

namespace SharedResultId

open KeyedAndKeyless (descriptor requirement)

def results : List (JsString × Instant) := [(js "a", 100), (js "b", 200), (js "c", 300)]

def options : ProtectOptions RequirementEntries (Cells JsString Unit)
    (Cells JsString AcceptedOperation) :=
  { KeyedAndKeyless.options none with
    verifyHumanResultToken := fun token =>
      match results.find? fun entry => entry.1 = token with
      | some entry => .ok { KeyedAndKeyless.result with expiresAt := some entry.2 }
      | none => .error ⟨js "Malformed x424 result token"⟩ }

def request (token key : JsString) : ProtectedRequest :=
  { KeyedAndKeyless.request (some key) with humanProof := token }

def atOnce (now : Instant) : PresentationTimes := ⟨now, now, now, now⟩

def start : Instant × ResourceStores RequirementEntries (Cells JsString Unit)
    (Cells JsString AcceptedOperation) :=
  (0, ⟨Table.empty.put ⟨requirement, none⟩, Cells.empty, Cells.empty⟩)

/-- The first of the results is accepted for the operation `k`. -/
def claimed : Instant × ResourceStores RequirementEntries (Cells JsString Unit)
    (Cells JsString AcceptedOperation) :=
  (10, (options.acceptHumanProof KeyedAndKeyless.sha256 (request (js "a") (js "k")) (atOnce 10)
    start.2).2)

end SharedResultId

open SharedResultId in
/-- The second result is accepted at 20 as the operation that claimed the id; the
entry expires at 100, the third result claims the id for another operation at
150, and the retry at 160 is a replay. -/
theorem retry_taken_over :
    ¬ RetriesAccepted KeyedAndKeyless.sha256 options (fun _ => True) fun _ _ _ _ => True := by
  intro h
  have hfirst : AcceptedFirst KeyedAndKeyless.sha256 options claimed.2
      (request (js "b") (js "k")) (atOnce 20) KeyedAndKeyless.requirement
      { KeyedAndKeyless.result with expiresAt := some 200 } 200 :=
    { mutation := by decide
      keyed := by decide
      ordered := by decide
      accepted := by decide +kernel
      expires := rfl }
  have hretry : StillValid KeyedAndKeyless.requirement
      { KeyedAndKeyless.result with expiresAt := some 200 } 200 (atOnce 160) :=
    { ordered := by decide
      unexpired := by decide
      fresh := by decide +kernel }
  have hrun : (presentationMachine KeyedAndKeyless.sha256 options).run claimed
      [(request (js "b") (js "k"), atOnce 20), (request (js "c") (js "k2"), atOnce 150)] =
    some (150, _) := rfl
  have hrejected := h trivial hfirst trivial hrun (by decide) hretry
  revert hrejected
  decide +kernel

theorem retry_accepted {ρ σ : Type} {sha256 : JsString → JsString}
    {options : ProtectOptions ρ σ (Cells JsString AcceptedOperation)} {valid : ρ → Prop}
    {entry : ρ → JsString → Option HumanRequirement}
    (hkeeps : KeepsRequirements options.requirementStore valid entry fun time => time)
    (hstore : options.resultAcceptanceStore = some inMemoryResultAcceptanceStore) :
    RetriesAccepted sha256 options valid ClaimedInFull := by
  intro u v request times requirement result e others retry hvalid hfirst hclaimed hrun hclock
    hretry
  obtain ⟨operationId, hkey⟩ := Option.isSome_iff_exists.mp hfirst.keyed
  obtain ⟨w, hstep, hothers⟩ := (Machine.run_cons_some _).mp hrun
  obtain ⟨_, _, rfl⟩ := presentationMachine_step hstep
  have hstarted : retry.startedAt < e := Int.lt_of_le_of_lt hretry.ordered.1 hretry.unexpired
  have hbefore : v.1 < e := Int.lt_of_le_of_lt hclock hstarted
  have hended : times.endedAt ≤ v.1 := presentationMachine_clock hothers
  have hlooked : times.lookedUpAt ≤ times.endedAt :=
    Int.le_trans hfirst.ordered.2.1 hfirst.ordered.2.2
  obtain ⟨hpreview, hcheck, hnamed, hlasts, hwellFormed, hretained⟩ :=
    hfirst.retained hkeeps hstore hvalid hkey hclaimed
      (Int.lt_of_le_of_lt (Int.le_trans hlooked hended) hbefore)
  refine (hretained.run hkeeps hstore hlasts hothers hbefore).accepted hkeeps hstore
    hfirst.mutation hkey hpreview ?_ hnamed hlasts hwellFormed hfirst.expires hretry.ordered
    hretry.unexpired
  obtain ⟨hcurrent, hproof⟩ := ProtectOptions.checkPresentation_eq_ok.mp hcheck
  obtain ⟨hreplay, hverified, hsatisfied⟩ := ProtectOptions.verifyHumanProof_eq_ok.mp hproof
  refine ProtectOptions.checkPresentation_eq_ok.mpr ⟨hcurrent,
    ProtectOptions.verifyHumanProof_eq_ok.mpr ⟨hreplay, hverified,
      satisfied_later hsatisfied ?_ ?_ ?_⟩⟩
  · exact Int.le_trans hfirst.ordered.started_le_ended (Int.le_trans hended hclock)
  · rw [hfirst.expires]
    exact decide_eq_false (Int.not_le.mpr hstarted)
  · cases hmatching : matchingMethod requirement result with
    | none => rfl
    | some accepted => exact hretry.fresh accepted hmatching

open SharedResultId in
/-- The first result is claimed at 10 and presented for another operation at 50. -/
theorem retry_accepted_at_90 :
    ∃ v, (presentationMachine KeyedAndKeyless.sha256 options).run start
        [(request (js "a") (js "k"), atOnce 10), (request (js "c") (js "k2"), atOnce 50)] =
          some v ∧
      (options.acceptHumanProof KeyedAndKeyless.sha256 (request (js "a") (js "k")) (atOnce 90)
        v.2).1 =
          .ok (KeyedAndKeyless.requirement,
            { KeyedAndKeyless.result with expiresAt := some 100 }) := by
  have hrun : (presentationMachine KeyedAndKeyless.sha256 options).run start
      [(request (js "a") (js "k"), atOnce 10), (request (js "c") (js "k2"), atOnce 50)] =
    some (50, _) := rfl
  have hfirst : AcceptedFirst KeyedAndKeyless.sha256 options start.2
      (request (js "a") (js "k")) (atOnce 10) KeyedAndKeyless.requirement
      { KeyedAndKeyless.result with expiresAt := some 100 } 100 :=
    { mutation := by decide
      keyed := by decide
      ordered := by decide
      accepted := by decide +kernel
      expires := rfl }
  have hretry : StillValid KeyedAndKeyless.requirement
      { KeyedAndKeyless.result with expiresAt := some 100 } 100 (atOnce 90) :=
    { ordered := by decide
      unexpired := by decide
      fresh := by decide +kernel }
  exact ⟨_, hrun, retry_accepted (inMemory_keepsRequirements 10000) rfl trivial hfirst nofun hrun
    (by decide) hretry⟩

end X424
