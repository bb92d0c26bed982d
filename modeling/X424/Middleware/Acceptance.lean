import X424.Middleware.Resource
import X424.ResultLaws

/-!
# One presentation from beginning to end

`acceptHumanProof` when no other presentation makes progress between its
calls on the stores.  The times at which these calls are answered are those of
the stores' servers; `startedAt` is what `acceptHumanProof` reads as `now`.
-/

namespace X424

open Foundation

structure PresentationTimes where
  startedAt : Instant
  lookedUpAt : Instant
  spentAt : Instant
  endedAt : Instant
  deriving DecidableEq, Repr

def PresentationTimes.Ordered (times : PresentationTimes) : Prop :=
  times.startedAt ≤ times.lookedUpAt ∧ times.lookedUpAt ≤ times.spentAt ∧
    times.spentAt ≤ times.endedAt

instance (times : PresentationTimes) : Decidable times.Ordered :=
  inferInstanceAs (Decidable (_ ∧ _))

structure ResourceStores (ρ σ τ : Type) where
  requirements : ρ
  replays : σ
  acceptances : τ

abbrev Acceptance := Except JsError (HumanRequirement × HumanResult)

section Presentation

variable {ρ σ τ : Type} (sha256 : JsString → JsString) (options : ProtectOptions ρ σ τ)
  (request : ProtectedRequest) (times : PresentationTimes)

namespace ProtectOptions

/-- `acceptHumanProof` once the result has passed every check. -/
def settle (requirement : HumanRequirement) (result : HumanResult)
    (s : ResourceStores ρ σ τ) : Acceptance × ResourceStores ρ σ τ :=
  let spent := options.spendResult request result times.startedAt times.spentAt s.replays
    s.acceptances
  let s := { s with replays := spent.2.1, acceptances := spent.2.2 }
  match spent.1 with
  | .error error => (.error error, s)
  | .ok () =>
      if request.mutation then (.ok (requirement, result), s)
      else
        let deleted := options.requirementStore.delete requirement.dependencyId times.endedAt
          s.requirements
        (deleted.1.map fun _ => (requirement, result), { s with requirements := deleted.2 })

def acceptHumanProof (s : ResourceStores ρ σ τ) : Acceptance × ResourceStores ρ σ τ :=
  match options.previewToken request with
  | .error error => (.error error, s)
  | .ok preview =>
      let found := options.requirementStore.get preview.dependencyId times.startedAt
        times.lookedUpAt s.requirements
      let s := { s with requirements := found.2 }
      match found.1 with
      | .error error => (.error error, s)
      | .ok none => (.error ⟨js "Unknown or expired human dependency"⟩, s)
      | .ok (some requirement) =>
          match options.checkPresentation request sha256 requirement times.startedAt with
          | .error error => (.error error, s)
          | .ok result => options.settle request times requirement result s

variable {sha256 options request times}

/-! ### What the checks let pass -/

theorem verifyHumanResultToken_of_preview {preview : HumanResult}
    (h : options.previewToken request = .ok preview) :
    options.verifyHumanResultToken request.humanProof = .ok preview := by
  simp only [previewToken] at h
  split_ifs at h
  exact h

theorem assertCurrentMatchesStored_eq_ok {requirement : HumanRequirement} :
    options.assertCurrentMatchesStored request sha256 requirement = .ok () ↔
      requirement.purpose = options.purpose ∧
        requirement.resource.audience = options.audience ∧
        requirement.resource.method = toUpperCase request.method ∧
        requirement.resource.uri = request.uri ∧
        requirement.resource.requestDigest = request.digest sha256 ∧
        requirement.binding = request.binding := by
  simp only [assertCurrentMatchesStored]
  split_ifs <;> simp_all

variable (options request) in
/-- `verifyHumanProofHeader` is told to ask for a replay store and does not get one. -/
def lacksReplayStore : Bool :=
  !options.useAcceptance request && (request.mutation || options.deploymentProfile != .devLocal) &&
    options.replayStore.isNone

theorem verifyHumanProof_eq_ok {requirement : HumanRequirement} {now : Instant}
    {result : HumanResult} :
    options.verifyHumanProof request requirement now = .ok result ↔
      options.lacksReplayStore request = false ∧
        options.verifyHumanResultToken request.humanProof = .ok result ∧
        evaluateHumanResult requirement result options.catalog now = [] := by
  simp only [verifyHumanProof, lacksReplayStore]
  split_ifs with hlacks
  · simp [hlacks]
  · rw [Bool.not_eq_true] at hlacks
    cases hverified : options.verifyHumanResultToken request.humanProof with
    | error error => simp [bind, Except.bind]
    | ok verified =>
        simp only [bind, Except.bind, hlacks, Except.ok.injEq, true_and]
        split_ifs with hsatisfied
        · constructor
          · rintro ⟨⟩
            exact ⟨rfl, hsatisfied⟩
          · rintro ⟨rfl, _⟩
            rfl
        · simp only [false_iff, not_and]
          rintro rfl
          exact hsatisfied

theorem checkPresentation_eq_ok {requirement : HumanRequirement} {now : Instant}
    {result : HumanResult} :
    options.checkPresentation request sha256 requirement now = .ok result ↔
      options.assertCurrentMatchesStored request sha256 requirement = .ok () ∧
        options.verifyHumanProof request requirement now = .ok result := by
  simp only [checkPresentation]
  cases options.assertCurrentMatchesStored request sha256 requirement with
  | error error => simp [bind, Except.bind]
  | ok _ => simp [bind, Except.bind]

theorem dependencyId_of_checked {requirement : HumanRequirement} {preview result : HumanResult}
    {now : Instant} (hpreview : options.previewToken request = .ok preview)
    (hcheck : options.checkPresentation request sha256 requirement now = .ok result) :
    result = preview ∧ requirement.dependencyId = preview.dependencyId := by
  obtain ⟨_, hverified, hsatisfied⟩ :=
    verifyHumanProof_eq_ok.mp (checkPresentation_eq_ok.mp hcheck).2
  rw [verifyHumanResultToken_of_preview hpreview, Except.ok.injEq] at hverified
  subst hverified
  exact ⟨rfl, (dependencyId_of_satisfied hsatisfied).symm⟩

variable (sha256 options request times) in
theorem acceptHumanProof_cases (s : ResourceStores ρ σ τ) :
    (∃ error, options.previewToken request = .error error ∧
      options.acceptHumanProof sha256 request times s = (.error error, s)) ∨
    ∃ preview reply requirements, options.previewToken request = .ok preview ∧
      options.requirementStore.get preview.dependencyId times.startedAt times.lookedUpAt
        s.requirements = (reply, requirements) ∧
      (((∀ requirement, reply ≠ .ok (some requirement)) ∧
        ∃ error, options.acceptHumanProof sha256 request times s =
          (.error error, { s with requirements := requirements })) ∨
      ∃ requirement, reply = .ok (some requirement) ∧
        ((∃ error, options.checkPresentation request sha256 requirement times.startedAt =
            .error error ∧
          options.acceptHumanProof sha256 request times s =
            (.error error, { s with requirements := requirements })) ∨
        ∃ result, options.checkPresentation request sha256 requirement times.startedAt =
            .ok result ∧
          options.acceptHumanProof sha256 request times s =
            options.settle request times requirement result
              { s with requirements := requirements })) := by
  unfold acceptHumanProof
  cases hpreview : options.previewToken request with
  | error error => exact Or.inl ⟨error, rfl, rfl⟩
  | ok preview =>
      refine Or.inr ⟨preview, _, _, rfl, rfl, ?_⟩
      cases hreply : (options.requirementStore.get preview.dependencyId times.startedAt
          times.lookedUpAt s.requirements).1 with
      | error error => exact Or.inl ⟨nofun, error, by simp only [hreply]⟩
      | ok found =>
          cases found with
          | none => exact Or.inl ⟨by simp, ⟨js "Unknown or expired human dependency"⟩,
              by simp only [hreply]⟩
          | some requirement =>
              refine Or.inr ⟨requirement, rfl, ?_⟩
              cases hcheck : options.checkPresentation request sha256 requirement
                  times.startedAt with
              | error error => exact Or.inl ⟨error, rfl, by simp only [hreply, hcheck]⟩
              | ok result => exact Or.inr ⟨result, rfl, by simp only [hreply, hcheck]⟩

section Outcomes

variable {replays replays' : σ} {acceptances acceptances' : τ}
  {accepted accepted' : Except JsError ResultAcceptanceStatus × τ}
  {consumed consumed' : Except JsError Bool × σ}

theorem acceptanceOutcome_snd :
    (acceptanceOutcome accepted replays).2 = (replays, accepted.2) := by
  rcases accepted with ⟨_ | status, next⟩
  · rfl
  · cases status <;> rfl

theorem acceptanceOutcome_eq_ok :
    (acceptanceOutcome accepted replays).1 = .ok () ↔ acceptedReply accepted.1 := by
  rcases accepted with ⟨_ | status, next⟩
  · simp [acceptanceOutcome]
  · cases status <;> simp [acceptanceOutcome]

theorem acceptanceOutcome_congr (h : accepted.1 = accepted'.1) :
    (acceptanceOutcome accepted replays).1 = (acceptanceOutcome accepted' replays').1 := by
  rcases accepted with ⟨reply, next⟩
  rcases accepted' with ⟨reply', next'⟩
  cases h
  rcases reply with _ | status
  · rfl
  · cases status <;> rfl

theorem consumptionOutcome_snd :
    (consumptionOutcome consumed acceptances).2 = (consumed.2, acceptances) := by
  rcases consumed with ⟨_ | spent, next⟩
  · rfl
  · cases spent <;> rfl

theorem consumptionOutcome_eq_ok :
    (consumptionOutcome consumed acceptances).1 = .ok () ↔ consumed.1 = .ok true := by
  rcases consumed with ⟨_ | spent, next⟩
  · simp [consumptionOutcome]
  · cases spent <;> simp [consumptionOutcome]

theorem consumptionOutcome_congr (h : consumed.1 = consumed'.1) :
    (consumptionOutcome consumed acceptances).1 =
      (consumptionOutcome consumed' acceptances').1 := by
  rcases consumed with ⟨reply, next⟩
  rcases consumed' with ⟨reply', next'⟩
  cases h
  rcases reply with _ | spent
  · rfl
  · cases spent <;> rfl

end Outcomes

variable (options request) in
theorem spendResult_cases (result : HumanResult) :
    (∃ store operationId, options.resultAcceptanceStore = some store ∧
      request.operationId = some operationId ∧ request.mutation = true ∧
      ∀ checkedAt now replays acceptances,
        options.spendResult request result checkedAt now replays acceptances =
          acceptanceOutcome
            (store.accept ⟨result.resultId, operationId, result.requestDigest, result.expiresAt⟩
              checkedAt now acceptances) replays) ∨
    (∃ store, options.replayStore = some store ∧ options.useAcceptance request = false ∧
      ∀ checkedAt now replays acceptances,
        options.spendResult request result checkedAt now replays acceptances =
          consumptionOutcome
            (store.consume result.resultId result.expiresAt checkedAt now replays) acceptances) ∨
    (options.replayStore = none ∧ options.useAcceptance request = false ∧
      ∀ checkedAt now replays acceptances,
        options.spendResult request result checkedAt now replays acceptances =
          (.ok (), replays, acceptances)) := by
  cases huse : options.useAcceptance request with
  | true =>
      simp only [useAcceptance, Bool.and_eq_true, Option.isSome_iff_exists] at huse
      obtain ⟨⟨hmutation, store, hstore⟩, operationId, hoperation⟩ := huse
      refine Or.inl ⟨store, operationId, hstore, hoperation, hmutation, fun _ _ _ _ => ?_⟩
      simp only [spendResult, hstore, hoperation, hmutation]
  | false =>
      refine Or.inr ?_
      cases hreplay : options.replayStore with
      | none =>
          refine Or.inr ⟨rfl, rfl, fun _ _ _ _ => ?_⟩
          unfold spendResult
          cases hacceptance : options.resultAcceptanceStore <;>
            cases hoperation : request.operationId <;> cases hmutation : request.mutation <;>
            simp_all [useAcceptance]
      | some store =>
          refine Or.inl ⟨store, rfl, rfl, fun _ _ _ _ => ?_⟩
          unfold spendResult
          cases hacceptance : options.resultAcceptanceStore <;>
            cases hoperation : request.operationId <;> cases hmutation : request.mutation <;>
            simp_all [useAcceptance]

end ProtectOptions

end Presentation

def Acceptance.rejected (outcome : Acceptance) : Prop := ∃ error, outcome = .error error

/-! ## Presentations one after the other -/

section Machine

variable {ρ σ τ : Type} (sha256 : JsString → JsString) (options : ProtectOptions ρ σ τ)

abbrev Presented := ProtectedRequest × PresentationTimes

def presentationStep (s : Instant × ResourceStores ρ σ τ) (event : Presented) :
    Option (Instant × ResourceStores ρ σ τ) :=
  if s.1 ≤ event.2.startedAt ∧ event.2.Ordered then
    some (event.2.endedAt, (options.acceptHumanProof sha256 event.1 event.2 s.2).2)
  else none

def presentationMachine : Machine (Instant × ResourceStores ρ σ τ) Presented :=
  ⟨presentationStep sha256 options⟩

variable {sha256 options}

theorem presentationMachine_step {s t : Instant × ResourceStores ρ σ τ} {event : Presented}
    (h : (presentationMachine sha256 options).step s event = some t) :
    s.1 ≤ event.2.startedAt ∧ event.2.Ordered ∧
      t = (event.2.endedAt, (options.acceptHumanProof sha256 event.1 event.2 s.2).2) := by
  simp only [presentationMachine, presentationStep] at h
  split_ifs at h with henabled
  exact ⟨henabled.1, henabled.2, (Option.some.inj h).symm⟩

theorem PresentationTimes.Ordered.started_le_ended {times : PresentationTimes}
    (h : times.Ordered) : times.startedAt ≤ times.endedAt :=
  Int.le_trans h.1 (Int.le_trans h.2.1 h.2.2)

theorem presentationMachine_clock {s t : Instant × ResourceStores ρ σ τ} {es : List Presented}
    (h : (presentationMachine sha256 options).run s es = some t) : s.1 ≤ t.1 := by
  refine Machine.invariant_run _ (I := fun u => s.1 ≤ u.1) (fun u event v hu hstep => ?_)
    (Int.le_refl _) h
  obtain ⟨hstart, hordered, rfl⟩ := presentationMachine_step hstep
  exact Int.le_trans hu (Int.le_trans hstart hordered.started_le_ended)

end Machine

/-! ## The presentation as a run of the middleware -/

section Run

variable {ι ρ σ τ : Type} [DecidableEq ι] {sha256 : JsString → JsString}
  {options : ProtectOptions ρ σ τ} {request : ProtectedRequest} {times : PresentationTimes}
  {s : ResourceState ι ρ σ τ} {id : ι}

def ResourceState.stores (s : ResourceState ι ρ σ τ) : ResourceStores ρ σ τ :=
  ⟨s.requirements, s.replays, s.acceptances⟩

def Acceptance.presentation (outcome : Acceptance) (request : ProtectedRequest)
    (spentAt : Instant) : Presentation :=
  match outcome with
  | .ok _ => .accepted request spentAt
  | .error _ => .rejected

/-- Steps of the middleware take `s` to these stores and this phase of the presentation. -/
def RunsTo (sha256 : JsString → JsString) (options : ProtectOptions ρ σ τ)
    (s : ResourceState ι ρ σ τ) (id : ι) (stores : ResourceStores ρ σ τ)
    (presentation : Presentation) : Prop :=
  ∃ es t, (resourceMachine sha256 options).run s es = some t ∧ t.stores = stores ∧
    t.presentation id = presentation

theorem RunsTo.step {t : ResourceState ι ρ σ τ} (event : ResourceEvent ι ρ)
    {stores : ResourceStores ρ σ τ} {presentation : Presentation}
    (hstep : resourceStep sha256 options s event = some t)
    (h : RunsTo sha256 options t id stores presentation) :
    RunsTo sha256 options s id stores presentation := by
  obtain ⟨es, u, hrun, hu⟩ := h
  exact ⟨event :: es, u, (Machine.run_cons_some _).mpr ⟨t, hstep, hrun⟩, hu⟩

theorem RunsTo.refl {presentation : Presentation} (h : s.presentation id = presentation) :
    RunsTo sha256 options s id s.stores presentation :=
  ⟨[], s, rfl, rfl, h⟩

theorem runsTo_settle {requirement : HumanRequirement} {result : HumanResult}
    (hphase : s.presentation id = .checked request times.startedAt requirement result)
    (hspent : s.now ≤ times.spentAt) (hended : times.spentAt ≤ times.endedAt) :
    RunsTo sha256 options s id (options.settle request times requirement result s.stores).2
      ((options.settle request times requirement result s.stores).1.presentation request
        times.spentAt) := by
  refine RunsTo.step (.tick times.spentAt) (if_pos hspent) ?_
  refine RunsTo.step (.spend id) (by simp only [resourceStep, hphase]; rfl) ?_
  simp only [ResourceState.spend, ProtectOptions.settle, ResourceState.stores]
  cases (options.spendResult request result times.startedAt times.spentAt s.replays
      s.acceptances).1 with
  | error error => exact RunsTo.refl (by simp [ResourceState.setPresentation,
      Acceptance.presentation])
  | ok _ =>
      cases request.mutation with
      | true => exact RunsTo.refl (by simp [ResourceState.setPresentation,
          Acceptance.presentation])
      | false =>
          simp only [Bool.false_eq_true, if_false, ResourceState.setPresentation]
          refine RunsTo.step (.tick times.endedAt) (if_pos hended) ?_
          refine RunsTo.step (.cleanUp id)
            (by simp only [resourceStep, Function.update_self]; rfl) ?_
          simp only [ResourceState.cleanUp, ResourceState.setPresentation]
          cases hdeleted : options.requirementStore.delete requirement.dependencyId times.endedAt
              s.requirements with
          | mk reply requirements =>
              cases reply <;>
                exact RunsTo.refl (by simp [Acceptance.presentation, Except.map])

/-- Alone, a presentation that carries its key runs as `acceptHumanProof` says. -/
theorem runsTo_acceptHumanProof (hphase : s.presentation id = .idle)
    (hkey : options.lacksIdempotencyKey request = false)
    (hclock : s.now ≤ times.startedAt) (htimes : times.Ordered) :
    RunsTo sha256 options s id (options.acceptHumanProof sha256 request times s.stores).2
      ((options.acceptHumanProof sha256 request times s.stores).1.presentation request
        times.spentAt) := by
  obtain ⟨hlooked, hspent, hended⟩ := htimes
  refine RunsTo.step (.tick times.startedAt) (if_pos hclock) ?_
  refine RunsTo.step (.present id request) (by simp only [resourceStep, hphase]; rfl) ?_
  simp only [ResourceState.present, hkey, Bool.false_eq_true, if_false,
    ProtectOptions.acceptHumanProof]
  cases options.previewToken request with
  | error error => exact RunsTo.refl (by simp [ResourceState.setPresentation,
      Acceptance.presentation])
  | ok preview =>
      refine RunsTo.step (.tick times.lookedUpAt) (if_pos hlooked) ?_
      refine RunsTo.step (.lookUp id)
        (by simp only [resourceStep, ResourceState.setPresentation, Function.update_self]; rfl) ?_
      simp only [ResourceState.lookUp, ResourceState.setPresentation, ResourceState.stores]
      cases (options.requirementStore.get preview.dependencyId times.startedAt times.lookedUpAt
          s.requirements).1 with
      | error error => exact RunsTo.refl (by simp [Acceptance.presentation])
      | ok found =>
          cases found with
          | none => exact RunsTo.refl (by simp [Acceptance.presentation])
          | some requirement =>
              simp only
              cases options.checkPresentation request sha256 requirement times.startedAt with
              | error error => exact RunsTo.refl (by simp [Acceptance.presentation])
              | ok result => exact runsTo_settle (by simp) hspent hended

end Run

end X424
