import X424.Foundation.Machine
import X424.RequirementLaws
import X424.Service

/-!
# The verify route

`POST /v1/requirements/:dependencyId/verify` reads the requirement, lets the
service satisfy it and deletes it when that fails.  A handoff poll satisfies a
requirement too, without the deletion.  Several such attempts may be under way
for one dependency, next to the deletions by its owner and by a resource server
that has accepted a read.  A requirement with a token stays exactly when no
verify attempt for it fails.
-/

namespace X424

open Foundation

inductive AttemptRoute where
  | verify
  | handoff
  deriving DecidableEq, Repr

inductive Attempt where
  | idle
  | found (route : AttemptRoute) (requirement : HumanRequirement)
  | verifying (route : AttemptRoute) (requirement : HumanRequirement)
  | failing (requirement : HumanRequirement)
  | answered
  deriving DecidableEq, Repr

namespace Attempt

def requirement? : Attempt → Option HumanRequirement
  | found _ requirement | verifying _ requirement | failing requirement => some requirement
  | idle | answered => none

def thrown (requirement : HumanRequirement) : AttemptRoute → Attempt
  | .verify => failing requirement
  | .handoff => answered

end Attempt

/-- A body that `ProofSchema` refuses, one that it lets pass and
`parseHumanProofSubmission` throws on, or a submission. -/
inductive ProofBody where
  | refused
  | unparsable
  | submission (proof : HumanProofSubmission)
  deriving DecidableEq, Repr

inductive Removal where
  /-- By its owner, or by the resource server after it accepted a read. -/
  | released
  | cleanedUp
  deriving DecidableEq, Repr

structure VerifierState (ι ρ σ : Type) where
  now : Instant
  requirements : ρ
  nonces : σ
  attempt : ι → Attempt
  /-- The dependency ids given out so far; issuance draws fresh ones. -/
  issued : List JsString
  /-- The requirements for which `satisfy` returned a token. -/
  tokens : List HumanRequirement
  removed : List (JsString × Removal)

inductive VerifierEvent (ι : Type) where
  | tick (time : Instant)
  | issue (requirement : HumanRequirement) (tenantId : Option JsString)
  | register (requirement : HumanRequirement) (checkedAt : Instant)
      (validateProviderRequest : HumanMethodRequirement → Except JsError Unit)
  | request (id : ι) (route : AttemptRoute) (dependencyId : JsString) (checkedAt : Instant)
  | submit (id : ι) (body : ProofBody) (checkedAt : Instant)
  /-- Whether the rest of `satisfy` (provider, replay slot, signature) succeeds, and then the
  answer of the route. -/
  | finish (id : ι) (succeeds answers : Bool)
  | cleanUp (id : ι)
  | ownerDelete (dependencyId : JsString) (tenantId : Option JsString)
  | readAccepted (dependencyId : JsString)

section Machine

variable {ι ρ σ : Type} [DecidableEq ι] (service : X424Service) (nonceStore : NonceStore σ)
  (requirementStore : RequirementStore ρ)

namespace VerifierState

def initial (now : Instant) : VerifierState ι ρ σ :=
  ⟨now, requirementStore.empty, nonceStore.empty, fun _ => .idle, [], [], []⟩

variable (s : VerifierState ι ρ σ)

def setAttempt (id : ι) (attempt : Attempt) : VerifierState ι ρ σ :=
  { s with attempt := Function.update s.attempt id attempt }

/-- Deleting an id that was never given out is of no account. -/
def remove (requirements : ρ) (dependencyId : JsString) (removal : Removal) :
    VerifierState ι ρ σ :=
  { s with
    requirements := requirements
    removed := if dependencyId ∈ s.issued then (dependencyId, removal) :: s.removed
      else s.removed }

def request (id : ι) (route : AttemptRoute) (dependencyId : JsString) (checkedAt : Instant) :
    VerifierState ι ρ σ :=
  let reply := requirementStore.get dependencyId checkedAt s.now s.requirements
  let attempt : Attempt := match reply.1 with
    | .ok (some requirement) => .found route requirement
    | _ => .answered
  setAttempt { s with requirements := reply.2 } id attempt

def submit (id : ι) (route : AttemptRoute) (requirement : HumanRequirement) (checkedAt : Instant) :
    ProofBody → VerifierState ι ρ σ
  | .refused => s.setAttempt id .answered
  | .unparsable => s.setAttempt id (.thrown requirement route)
  | .submission proof =>
      let reply := service.beginSatisfy nonceStore requirement proof checkedAt s.now s.nonces
      let attempt : Attempt := match reply.1 with
        | .ok _ => .verifying route requirement
        | .error _ => .thrown requirement route
      setAttempt { s with nonces := reply.2 } id attempt

def finish (id : ι) (route : AttemptRoute) (requirement : HumanRequirement)
    (succeeds answers : Bool) : VerifierState ι ρ σ :=
  if succeeds && requirement.isCurrent s.now then
    setAttempt { s with tokens := requirement :: s.tokens } id
      (if answers then .answered else .thrown requirement route)
  else s.setAttempt id (.thrown requirement route)

def ownerDelete (dependencyId : JsString) : Option JsString → VerifierState ι ρ σ
  | none =>
      s.remove (requirementStore.delete dependencyId s.now s.requirements).2 dependencyId .released
  | some tenantId =>
      match requirementStore.deleteForTenant dependencyId tenantId s.now s.requirements with
      | (.ok true, requirements) => s.remove requirements dependencyId .released
      | (_, requirements) => { s with requirements := requirements }

end VerifierState

def verifierStep (s : VerifierState ι ρ σ) : VerifierEvent ι → Option (VerifierState ι ρ σ)
  | .tick time => if s.now ≤ time then some { s with now := time } else none
  | .issue requirement tenantId =>
      if requirement.dependencyId ∈ s.issued then none
      else
        some { s with
          requirements := (requirementStore.putFor requirement tenantId s.now s.requirements).2
          issued := requirement.dependencyId :: s.issued }
  | .register requirement checkedAt validateProviderRequest =>
      some { s with
        nonces := (service.register nonceStore requirement checkedAt s.now
          validateProviderRequest s.nonces).2 }
  | .request id route dependencyId checkedAt =>
      if s.attempt id = .idle ∧ checkedAt ≤ s.now then
        some (s.request requirementStore id route dependencyId checkedAt)
      else none
  | .submit id body checkedAt =>
      match s.attempt id with
      | .found route requirement =>
          some (s.submit service nonceStore id route requirement checkedAt body)
      | _ => none
  | .finish id succeeds answers =>
      match s.attempt id with
      | .verifying route requirement => some (s.finish id route requirement succeeds answers)
      | _ => none
  | .cleanUp id =>
      match s.attempt id with
      | .failing requirement =>
          some ((s.remove
            (requirementStore.delete requirement.dependencyId s.now s.requirements).2
            requirement.dependencyId .cleanedUp).setAttempt id .answered)
      | _ => none
  | .ownerDelete dependencyId tenantId =>
      some (s.ownerDelete requirementStore dependencyId tenantId)
  | .readAccepted dependencyId =>
      some (s.remove (requirementStore.delete dependencyId s.now s.requirements).2 dependencyId
        .released)

def verifierMachine : Machine (VerifierState ι ρ σ) (VerifierEvent ι) :=
  ⟨verifierStep service nonceStore requirementStore⟩

end Machine

/-! ## The invariant -/

section Invariant

variable {ι ρ σ : Type} (valid : ρ → Prop)
  (entry : ρ → JsString → Option HumanRequirement) (lasts : Instant → Instant)

/-- The requirement was given out and is stored, unless it has lapsed or was deleted. -/
def Accounted (s : VerifierState ι ρ σ) (requirement : HumanRequirement) : Prop :=
  requirement.dependencyId ∈ s.issued ∧
    (entry s.requirements requirement.dependencyId = some requirement ∨
      requirement.lapsed lasts s.now ∨
      ∃ removal, (requirement.dependencyId, removal) ∈ s.removed)

structure VerifierInvariant (s : VerifierState ι ρ σ) : Prop where
  valid : valid s.requirements
  stored : ∀ id requirement, entry s.requirements id = some requirement →
    id ∈ s.issued ∧ ∀ removal, (id, removal) ∉ s.removed
  removed : ∀ id removal, (id, removal) ∈ s.removed → id ∈ s.issued
  tokens : ∀ requirement ∈ s.tokens, Accounted entry lasts s requirement
  attempts : ∀ i requirement, (s.attempt i).requirement? = some requirement →
    Accounted entry lasts s requirement

variable {valid entry lasts} {s next : VerifierState ι ρ σ}

theorem EntryKept.eq_some {now : Instant} {before after : Option HumanRequirement}
    (h : EntryKept lasts now before after) {requirement : HumanRequirement}
    (hafter : after = some requirement) : before = some requirement := by
  rcases h with heq | ⟨hnone, _⟩
  · rw [← heq, hafter]
  · rw [hnone] at hafter
    cases hafter

theorem Accounted.kept {requirement : HumanRequirement} {requirements : ρ}
    (h : Accounted entry lasts s requirement)
    (hkept : EntryKept lasts s.now (entry s.requirements requirement.dependencyId)
      (entry requirements requirement.dependencyId)) :
    Accounted entry lasts { s with requirements := requirements } requirement := by
  obtain ⟨hissued, hentry | hrest⟩ := h
  · rcases hkept with heq | ⟨_, other, hother, hlapsed⟩
    · exact ⟨hissued, Or.inl (heq.trans hentry)⟩
    · rw [hentry, Option.some.injEq] at hother
      exact ⟨hissued, Or.inr (Or.inl (hother ▸ hlapsed))⟩
  · exact ⟨hissued, Or.inr hrest⟩

namespace VerifierInvariant

theorem initial {requirementStore : RequirementStore ρ} {nonceStore : NonceStore σ}
    (hstore : KeepsRequirements requirementStore valid entry lasts) (now : Instant) :
    VerifierInvariant valid entry lasts
      (VerifierState.initial nonceStore requirementStore now : VerifierState ι ρ σ) where
  valid := hstore.valid_empty
  stored id requirement hentry := by
    rw [VerifierState.initial, hstore.entry_empty] at hentry
    cases hentry
  removed _ _ h := nomatch h
  tokens _ h := nomatch h
  attempts _ _ h := nomatch h

theorem tick {time : Instant} (hle : s.now ≤ time)
    (h : VerifierInvariant valid entry lasts s) :
    VerifierInvariant valid entry lasts { s with now := time } := by
  have hlater : ∀ {requirement}, Accounted entry lasts s requirement →
      Accounted entry lasts { s with now := time } requirement := by
    rintro requirement ⟨hissued, hentry | hlapsed | hremoved⟩
    · exact ⟨hissued, Or.inl hentry⟩
    · exact ⟨hissued, Or.inr (Or.inl (HumanRequirement.lapsed_later hle hlapsed))⟩
    · exact ⟨hissued, Or.inr (Or.inr hremoved)⟩
  exact ⟨h.valid, h.stored, h.removed, fun requirement ht => hlater (h.tokens requirement ht),
    fun i requirement hi => hlater (h.attempts i requirement hi)⟩

theorem store {requirements : ρ} (h : VerifierInvariant valid entry lasts s)
    (hvalid : valid requirements)
    (hkept : ∀ id, EntryKept lasts s.now (entry s.requirements id) (entry requirements id)) :
    VerifierInvariant valid entry lasts { s with requirements := requirements } where
  valid := hvalid
  stored id requirement hentry := h.stored id requirement ((hkept id).eq_some hentry)
  removed := h.removed
  tokens requirement ht := (h.tokens requirement ht).kept (hkept _)
  attempts i requirement hi := (h.attempts i requirement hi).kept (hkept _)

theorem remove {requirements : ρ} {dependencyId : JsString}
    (h : VerifierInvariant valid entry lasts s) (hvalid : valid requirements)
    (hgone : entry requirements dependencyId = none)
    (hothers : ∀ id, id ≠ dependencyId →
      EntryKept lasts s.now (entry s.requirements id) (entry requirements id))
    (removal : Removal) :
    VerifierInvariant valid entry lasts (s.remove requirements dependencyId removal) := by
  have hremoved : ∀ {id other}, (id, other) ∈ (s.remove requirements dependencyId removal).removed →
      (id, other) ∈ s.removed ∨ (id = dependencyId ∧ id ∈ s.issued) := by
    intro id other hmem
    simp only [VerifierState.remove] at hmem
    split_ifs at hmem with hissued
    · rcases List.mem_cons.mp hmem with heq | hmem
      · cases heq
        exact Or.inr ⟨rfl, hissued⟩
      · exact Or.inl hmem
    · exact Or.inl hmem
  have haccounted : ∀ {requirement}, Accounted entry lasts s requirement →
      Accounted entry lasts (s.remove requirements dependencyId removal) requirement := by
    intro requirement haccounted
    by_cases hid : requirement.dependencyId = dependencyId
    · refine ⟨haccounted.1, Or.inr (Or.inr ⟨removal, ?_⟩)⟩
      simp only [VerifierState.remove, ← hid, if_pos haccounted.1]
      exact List.mem_cons_self
    · obtain ⟨hissued, hentry | hlapsed | ⟨other, hother⟩⟩ := haccounted.kept (hothers _ hid)
      · exact ⟨hissued, Or.inl hentry⟩
      · exact ⟨hissued, Or.inr (Or.inl hlapsed)⟩
      · refine ⟨hissued, Or.inr (Or.inr ⟨other, ?_⟩)⟩
        simp only [VerifierState.remove]
        split_ifs
        · exact List.mem_cons_of_mem _ hother
        · exact hother
  refine ⟨hvalid, fun id requirement hentry => ?_, fun id other hmem => ?_,
    fun requirement ht => haccounted (h.tokens requirement ht),
    fun i requirement hi => haccounted (h.attempts i requirement hi)⟩
  · have hid : id ≠ dependencyId := by
      rintro rfl
      rw [VerifierState.remove, hgone] at hentry
      cases hentry
    obtain ⟨hissued, hnot⟩ := h.stored id requirement ((hothers id hid).eq_some hentry)
    refine ⟨hissued, fun other hmem => ?_⟩
    rcases hremoved hmem with hmem | ⟨heq, _⟩
    · exact hnot other hmem
    · exact hid heq
  · rcases hremoved hmem with hmem | ⟨_, hissued⟩
    · exact h.removed id other hmem
    · exact hissued

variable [DecidableEq ι]

theorem setAttempt {i : ι} {attempt : Attempt} (h : VerifierInvariant valid entry lasts s)
    (hattempt : ∀ requirement, attempt.requirement? = some requirement →
      Accounted entry lasts s requirement) :
    VerifierInvariant valid entry lasts (s.setAttempt i attempt) := by
  refine ⟨h.valid, h.stored, h.removed, h.tokens, fun j requirement hj => ?_⟩
  by_cases hji : j = i
  · subst hji
    have hj' : attempt.requirement? = some requirement := by
      simpa only [VerifierState.setAttempt, Function.update_self] using hj
    exact hattempt requirement hj'
  · have hj' : (s.attempt j).requirement? = some requirement := by
      simpa only [VerifierState.setAttempt, Function.update_of_ne hji] using hj
    exact h.attempts j requirement hj'

private theorem thrown_requirement {route : AttemptRoute} {requirement other : HumanRequirement}
    (h : (Attempt.thrown requirement route).requirement? = some other) : other = requirement := by
  cases route with
  | verify => exact (Option.some.inj h).symm
  | handoff => cases h

variable {service : X424Service} {nonceStore : NonceStore σ}
  {requirementStore : RequirementStore ρ}

omit [DecidableEq ι] in
theorem issue (hstore : KeepsRequirements requirementStore valid entry lasts)
    (h : VerifierInvariant valid entry lasts s) {requirement : HumanRequirement}
    (hfresh : requirement.dependencyId ∉ s.issued) (tenantId : Option JsString) :
    VerifierInvariant valid entry lasts
      { s with
        requirements := (requirementStore.putFor requirement tenantId s.now s.requirements).2
        issued := requirement.dependencyId :: s.issued } := by
  obtain ⟨hvalid, hput⟩ := hstore.putFor requirement tenantId s.now h.valid
  have haccounted : ∀ {other}, Accounted entry lasts s other →
      Accounted entry lasts
        { s with
          requirements := (requirementStore.putFor requirement tenantId s.now s.requirements).2
          issued := requirement.dependencyId :: s.issued } other := by
    intro other hother
    rcases hput other.dependencyId with ⟨hid, _⟩ | hkept
    · exact absurd (hid ▸ hother.1) hfresh
    · have hkept := hother.kept hkept
      exact ⟨List.mem_cons_of_mem _ hkept.1, hkept.2⟩
  refine ⟨hvalid, fun id other hentry => ?_, fun id removal hmem => ?_,
    fun other ht => haccounted (h.tokens other ht),
    fun i other hi => haccounted (h.attempts i other hi)⟩
  · rcases hput id with ⟨rfl, _⟩ | hkept
    · exact ⟨List.mem_cons_self, fun removal hmem => hfresh (h.removed _ removal hmem)⟩
    · obtain ⟨hissued, hnot⟩ := h.stored id other (hkept.eq_some hentry)
      exact ⟨List.mem_cons_of_mem _ hissued, hnot⟩
  · exact List.mem_cons_of_mem _ (h.removed id removal hmem)

theorem request (hstore : KeepsRequirements requirementStore valid entry lasts)
    (h : VerifierInvariant valid entry lasts s) {checkedAt : Instant}
    (hle : checkedAt ≤ s.now) (i : ι) (route : AttemptRoute) (dependencyId : JsString) :
    VerifierInvariant valid entry lasts
      (s.request requirementStore i route dependencyId checkedAt) := by
  obtain ⟨hvalid, hkept, hfound, _⟩ := hstore.get dependencyId h.valid hle
  refine (h.store hvalid hkept).setAttempt fun requirement hrequirement => ?_
  have hreply : (requirementStore.get dependencyId checkedAt s.now s.requirements).1 =
      .ok (some requirement) := by
    split at hrequirement
    · next found heq =>
        rw [heq, ← Option.some.inj hrequirement]
    · cases hrequirement
  obtain ⟨hentry, _⟩ := hfound requirement hreply
  have hnamed := hstore.named h.valid hentry
  refine Accounted.kept ⟨?_, Or.inl ?_⟩ (hkept _)
  · rw [hnamed]
    exact (h.stored dependencyId requirement hentry).1
  · rw [hnamed]
    exact hentry

theorem submit {i : ι} {route : AttemptRoute} {requirement : HumanRequirement}
    (h : VerifierInvariant valid entry lasts s)
    (hphase : s.attempt i = .found route requirement) (checkedAt : Instant) (body : ProofBody) :
    VerifierInvariant valid entry lasts
      (s.submit service nonceStore i route requirement checkedAt body) := by
  have haccounted : Accounted entry lasts s requirement :=
    h.attempts i requirement (by rw [hphase]; rfl)
  cases body with
  | refused => exact h.setAttempt fun _ hnone => nomatch hnone
  | unparsable =>
      exact h.setAttempt fun other hother => thrown_requirement hother ▸ haccounted
  | submission proof =>
      have hnonces : VerifierInvariant valid entry lasts
          { s with nonces := (service.beginSatisfy nonceStore requirement proof checkedAt s.now
            s.nonces).2 } := ⟨h.valid, h.stored, h.removed, h.tokens, h.attempts⟩
      refine hnonces.setAttempt fun other hother => ?_
      split at hother
      · exact Option.some.inj hother ▸ haccounted
      · exact thrown_requirement hother ▸ haccounted

theorem finish {i : ι} {route : AttemptRoute} {requirement : HumanRequirement}
    (h : VerifierInvariant valid entry lasts s)
    (hphase : s.attempt i = .verifying route requirement) (succeeds answers : Bool) :
    VerifierInvariant valid entry lasts (s.finish i route requirement succeeds answers) := by
  have haccounted : Accounted entry lasts s requirement :=
    h.attempts i requirement (by rw [hphase]; rfl)
  unfold VerifierState.finish
  split
  · have htokens : VerifierInvariant valid entry lasts
        { s with tokens := requirement :: s.tokens } := by
      refine ⟨h.valid, h.stored, h.removed, fun other ht => ?_, h.attempts⟩
      rcases List.mem_cons.mp ht with rfl | ht
      · exact haccounted
      · exact h.tokens other ht
    refine htokens.setAttempt fun other hother => ?_
    split at hother
    · cases hother
    · exact thrown_requirement hother ▸ haccounted
  · exact h.setAttempt fun other hother => thrown_requirement hother ▸ haccounted

omit [DecidableEq ι] in
theorem delete (hstore : KeepsRequirements requirementStore valid entry lasts)
    (h : VerifierInvariant valid entry lasts s) (dependencyId : JsString) (removal : Removal) :
    VerifierInvariant valid entry lasts
      (s.remove (requirementStore.delete dependencyId s.now s.requirements).2 dependencyId
        removal) := by
  obtain ⟨hvalid, hgone, hothers⟩ := hstore.delete dependencyId s.now h.valid
  exact h.remove hvalid hgone (fun id hid => Or.inl (hothers id hid)) removal

omit [DecidableEq ι] in
theorem ownerDelete (hstore : KeepsRequirements requirementStore valid entry lasts)
    (h : VerifierInvariant valid entry lasts s) (dependencyId : JsString)
    (tenantId : Option JsString) :
    VerifierInvariant valid entry lasts
      (s.ownerDelete requirementStore dependencyId tenantId) := by
  cases tenantId with
  | none => exact h.delete hstore dependencyId .released
  | some tenantId =>
      have hdelete := hstore.deleteForTenant dependencyId tenantId s.now h.valid
      revert hdelete
      simp only [VerifierState.ownerDelete]
      rcases requirementStore.deleteForTenant dependencyId tenantId s.now s.requirements with
        ⟨error | deleted, requirements⟩
      · rintro ⟨hvalid, _, hothers⟩
        exact h.store hvalid fun id => (hothers id).resolve_left (by simp)
      · rintro ⟨hvalid, hgone, hothers⟩
        cases deleted with
        | false => exact h.store hvalid fun id => (hothers id).resolve_left (by simp)
        | true =>
            exact h.remove hvalid (hgone rfl)
              (fun id hid => (hothers id).resolve_left fun hdeleted => hid hdeleted.1) .released

theorem step (hstore : KeepsRequirements requirementStore valid entry lasts)
    (h : VerifierInvariant valid entry lasts s) {event : VerifierEvent ι}
    (hstep : verifierStep service nonceStore requirementStore s event = some next) :
    VerifierInvariant valid entry lasts next := by
  cases event with
  | tick time =>
      simp only [verifierStep, Option.ite_none_right_eq_some, Option.some.injEq] at hstep
      obtain ⟨hle, rfl⟩ := hstep
      exact h.tick hle
  | issue requirement tenantId =>
      simp only [verifierStep, Option.ite_none_left_eq_some, Option.some.injEq] at hstep
      obtain ⟨hfresh, rfl⟩ := hstep
      exact h.issue hstore hfresh tenantId
  | register requirement checkedAt validateProviderRequest =>
      cases hstep
      exact ⟨h.valid, h.stored, h.removed, h.tokens, h.attempts⟩
  | request i route dependencyId checkedAt =>
      simp only [verifierStep, Option.ite_none_right_eq_some, Option.some.injEq] at hstep
      obtain ⟨⟨_, hle⟩, rfl⟩ := hstep
      exact h.request hstore hle i route dependencyId
  | submit i body checkedAt =>
      simp only [verifierStep] at hstep
      split at hstep
      · next hphase =>
          cases hstep
          exact h.submit hphase checkedAt body
      · cases hstep
  | finish i succeeds answers =>
      simp only [verifierStep] at hstep
      split at hstep
      · next hphase =>
          cases hstep
          exact h.finish hphase succeeds answers
      · cases hstep
  | cleanUp i =>
      simp only [verifierStep] at hstep
      split at hstep
      · next requirement hphase =>
          cases hstep
          exact (h.delete hstore requirement.dependencyId .cleanedUp).setAttempt
            fun _ hnone => nomatch hnone
      · cases hstep
  | ownerDelete dependencyId tenantId =>
      cases hstep
      exact h.ownerDelete hstore dependencyId tenantId
  | readAccepted dependencyId =>
      cases hstep
      exact h.delete hstore dependencyId .released

end VerifierInvariant

end Invariant

/-! ## Attempts that fail -/

section Failures

variable {ι ρ σ : Type} [DecidableEq ι]

/-- The step fails in the `try` block of a verify request for the dependency. -/
def FailsFor (service : X424Service) (nonceStore : NonceStore σ) (dependencyId : JsString)
    (s : VerifierState ι ρ σ) : VerifierEvent ι → Prop
  | .submit id .unparsable _ =>
      ∃ requirement, s.attempt id = .found .verify requirement ∧
        requirement.dependencyId = dependencyId
  | .submit id (.submission proof) checkedAt =>
      ∃ requirement error, s.attempt id = .found .verify requirement ∧
        requirement.dependencyId = dependencyId ∧
        (service.beginSatisfy nonceStore requirement proof checkedAt s.now s.nonces).1 =
          .error error
  | .finish id succeeds answers =>
      ∃ requirement, s.attempt id = .verifying .verify requirement ∧
        requirement.dependencyId = dependencyId ∧
        (succeeds && requirement.isCurrent s.now && answers) = false
  | _ => False

structure Spared (dependencyId : JsString) (s : VerifierState ι ρ σ) : Prop where
  attempts : ∀ i requirement, s.attempt i = .failing requirement →
    requirement.dependencyId ≠ dependencyId
  removed : (dependencyId, Removal.cleanedUp) ∉ s.removed

variable {service : X424Service} {nonceStore : NonceStore σ}
  {requirementStore : RequirementStore ρ} {s next : VerifierState ι ρ σ} {dependencyId : JsString}

omit [DecidableEq ι] in
theorem Spared.congr (s : VerifierState ι ρ σ) {other : VerifierState ι ρ σ}
    (hattempt : other.attempt = s.attempt) (hremoved : other.removed = s.removed) :
    Spared dependencyId other ↔ Spared dependencyId s := by
  constructor
  · rintro ⟨hattempts, hnot⟩
    exact ⟨hattempt ▸ hattempts, hremoved ▸ hnot⟩
  · rintro ⟨hattempts, hnot⟩
    exact ⟨hattempt.symm ▸ hattempts, hremoved.symm ▸ hnot⟩

theorem Spared.setAttempt_iff (s other : VerifierState ι ρ σ)
    (hattempt : other.attempt = s.attempt) (hremoved : other.removed = s.removed) {i : ι}
    {attempt : Attempt} (hbefore : ∀ requirement, s.attempt i ≠ .failing requirement) :
    Spared dependencyId (other.setAttempt i attempt) ↔ Spared dependencyId s ∧
      ∀ requirement, attempt = .failing requirement → requirement.dependencyId ≠ dependencyId := by
  rw [← Spared.congr s hattempt hremoved]
  rw [← hattempt] at hbefore
  constructor
  · rintro ⟨hattempts, hremoved⟩
    refine ⟨⟨fun j requirement hj => ?_, hremoved⟩, fun requirement hfailing => ?_⟩
    · have hji : j ≠ i := by
        rintro rfl
        exact hbefore requirement hj
      exact hattempts j requirement ((Function.update_of_ne hji _ _).trans hj)
    · exact hattempts i requirement ((Function.update_self _ _ _).trans hfailing)
  · rintro ⟨⟨hattempts, hremoved⟩, hattempt⟩
    refine ⟨fun j requirement hj => ?_, hremoved⟩
    by_cases hji : j = i
    · subst hji
      exact hattempt requirement ((Function.update_self _ _ _).symm.trans hj)
    · exact hattempts j requirement ((Function.update_of_ne hji _ _).symm.trans hj)

theorem Spared.thrown_iff {requirement : HumanRequirement} {route : AttemptRoute} :
    (∀ other, Attempt.thrown requirement route = .failing other →
        other.dependencyId ≠ dependencyId) ↔
      ¬ (route = .verify ∧ requirement.dependencyId = dependencyId) := by
  cases route with
  | verify => simp [Attempt.thrown]
  | handoff => simp [Attempt.thrown]

omit [DecidableEq ι] in
theorem Spared.remove_released (requirements : ρ) (id : JsString) :
    Spared dependencyId (s.remove requirements id .released) ↔ Spared dependencyId s := by
  have hmem : (dependencyId, Removal.cleanedUp) ∈ (s.remove requirements id .released).removed ↔
      (dependencyId, Removal.cleanedUp) ∈ s.removed := by
    simp only [VerifierState.remove]
    split_ifs
    · simp
    · rfl
  constructor
  · rintro ⟨hattempts, hremoved⟩
    exact ⟨hattempts, hmem.not.mp hremoved⟩
  · rintro ⟨hattempts, hremoved⟩
    exact ⟨hattempts, hmem.not.mpr hremoved⟩

omit [DecidableEq ι] in
theorem Spared.ownerDelete (id : JsString) (tenantId : Option JsString) :
    Spared dependencyId (s.ownerDelete requirementStore id tenantId) ↔ Spared dependencyId s := by
  cases tenantId with
  | none => exact Spared.remove_released _ _
  | some tenantId =>
      simp only [VerifierState.ownerDelete]
      split
      · exact Spared.remove_released _ _
      · exact Spared.congr s rfl rfl

theorem Spared.cleanUp {i : ι} {requirement : HumanRequirement} {requirements : ρ}
    (hphase : s.attempt i = .failing requirement) (hissued : requirement.dependencyId ∈ s.issued) :
    Spared dependencyId ((s.remove requirements requirement.dependencyId .cleanedUp).setAttempt i
      .answered) ↔ Spared dependencyId s := by
  have hremoved : ((s.remove requirements requirement.dependencyId .cleanedUp).setAttempt i
      .answered).removed = (requirement.dependencyId, .cleanedUp) :: s.removed := by
    simp only [VerifierState.setAttempt, VerifierState.remove, if_pos hissued]
  constructor
  · rintro ⟨hattempts, hnot⟩
    rw [hremoved, List.mem_cons, not_or] at hnot
    refine ⟨fun j other hj => ?_, hnot.2⟩
    by_cases hji : j = i
    · subst hji
      cases hphase.symm.trans hj
      exact fun hid => hnot.1 (hid ▸ rfl)
    · exact hattempts j other ((Function.update_of_ne hji _ _).trans hj)
  · rintro ⟨hattempts, hnot⟩
    refine ⟨fun j other hj => ?_, ?_⟩
    · by_cases hji : j = i
      · subst hji
        cases (Function.update_self _ _ _).symm.trans hj
      · exact hattempts j other ((Function.update_of_ne hji _ _).symm.trans hj)
    · rw [hremoved, List.mem_cons, not_or]
      exact ⟨fun heq => hattempts i requirement hphase (Prod.ext_iff.mp heq).1.symm, hnot⟩

omit [DecidableEq ι] in
theorem not_failing_of {i : ι} {attempt : Attempt} (hphase : s.attempt i = attempt)
    (h : ∀ requirement, attempt ≠ .failing requirement) (requirement : HumanRequirement) :
    s.attempt i ≠ .failing requirement := hphase ▸ h requirement

theorem Spared.request {i : ι} (hphase : s.attempt i = .idle) (route : AttemptRoute)
    (id : JsString) (checkedAt : Instant) :
    Spared dependencyId (s.request requirementStore i route id checkedAt) ↔
      Spared dependencyId s := by
  have hbefore := not_failing_of hphase fun _ h => (by cases h)
  let reply := requirementStore.get id checkedAt s.now s.requirements
  refine (Spared.setAttempt_iff s { s with requirements := reply.2 } rfl rfl hbefore).trans
    (and_iff_left fun requirement hfailing => ?_)
  split at hfailing
  · cases hfailing
  · cases hfailing

theorem Spared.submit {i : ι} {route : AttemptRoute} {requirement : HumanRequirement}
    (hphase : s.attempt i = .found route requirement) (body : ProofBody) (checkedAt : Instant) :
    Spared dependencyId (s.submit service nonceStore i route requirement checkedAt body) ↔
      Spared dependencyId s ∧
        ¬ FailsFor service nonceStore dependencyId s (.submit i body checkedAt) := by
  have hbefore := not_failing_of hphase fun _ h => (by cases h)
  cases body with
  | refused =>
      exact (Spared.setAttempt_iff s s rfl rfl hbefore).trans
        (and_congr_right fun _ => iff_of_true (fun _ h => (by cases h)) not_false)
  | unparsable =>
      refine (Spared.setAttempt_iff s s rfl rfl hbefore).trans (and_congr_right fun _ => ?_)
      rw [Spared.thrown_iff, FailsFor, hphase]
      simp [eq_comm]
  | submission proof =>
      let reply := service.beginSatisfy nonceStore requirement proof checkedAt s.now s.nonces
      refine (Spared.setAttempt_iff s { s with nonces := reply.2 } rfl rfl hbefore).trans
        (and_congr_right fun _ => ?_)
      rw [FailsFor, hphase]
      cases hreply : (service.beginSatisfy nonceStore requirement proof checkedAt s.now
        s.nonces).1 with
      | ok accepted =>
          refine iff_of_true (fun _ h => (by cases h)) ?_
          rintro ⟨_, error, heq, -, herror⟩
          cases heq
          cases hreply.symm.trans herror
      | error error =>
          rw [Spared.thrown_iff]
          refine not_congr ⟨?_, ?_⟩
          · rintro ⟨rfl, hid⟩
            exact ⟨requirement, error, rfl, hid, hreply⟩
          · rintro ⟨_, _, heq, hid, -⟩
            cases heq
            exact ⟨rfl, hid⟩

omit [DecidableEq ι] in
theorem failsFor_finish_iff {i : ι} {route : AttemptRoute} {requirement : HumanRequirement}
    {succeeds answers : Bool} (hphase : s.attempt i = .verifying route requirement) :
    FailsFor service nonceStore dependencyId s (.finish i succeeds answers) ↔
      (route = .verify ∧ requirement.dependencyId = dependencyId) ∧
        (succeeds && requirement.isCurrent s.now && answers) = false := by
  rw [FailsFor, hphase]
  constructor
  · rintro ⟨_, heq, hid, hfailed⟩
    cases heq
    exact ⟨⟨rfl, hid⟩, hfailed⟩
  · rintro ⟨⟨rfl, hid⟩, hfailed⟩
    exact ⟨requirement, rfl, hid, hfailed⟩

theorem Spared.finish {i : ι} {route : AttemptRoute} {requirement : HumanRequirement}
    (hphase : s.attempt i = .verifying route requirement) (succeeds answers : Bool) :
    Spared dependencyId (s.finish i route requirement succeeds answers) ↔
      Spared dependencyId s ∧
        ¬ FailsFor service nonceStore dependencyId s (.finish i succeeds answers) := by
  have hbefore := not_failing_of hphase fun _ h => (by cases h)
  rw [failsFor_finish_iff hphase]
  unfold VerifierState.finish
  cases succeeds && requirement.isCurrent s.now with
  | true =>
      refine (Spared.setAttempt_iff s { s with tokens := requirement :: s.tokens } rfl rfl
        hbefore).trans (and_congr_right fun _ => ?_)
      cases answers with
      | true => simp
      | false =>
          rw [if_neg Bool.false_ne_true, Spared.thrown_iff]
          simp
  | false =>
      refine (Spared.setAttempt_iff s s rfl rfl hbefore).trans (and_congr_right fun _ => ?_)
      rw [Spared.thrown_iff]
      simp

theorem Spared.step
    (hissued : ∀ i requirement, s.attempt i = .failing requirement →
      requirement.dependencyId ∈ s.issued) {event : VerifierEvent ι}
    (hstep : verifierStep service nonceStore requirementStore s event = some next) :
    Spared dependencyId next ↔
      Spared dependencyId s ∧ ¬ FailsFor service nonceStore dependencyId s event := by
  have hframe : ∀ {other : VerifierState ι ρ σ}, other.attempt = s.attempt →
      other.removed = s.removed → ¬ FailsFor service nonceStore dependencyId s event →
      (Spared dependencyId other ↔
        Spared dependencyId s ∧ ¬ FailsFor service nonceStore dependencyId s event) :=
    fun hattempt hremoved hnot =>
      (Spared.congr s hattempt hremoved).trans (and_iff_left hnot).symm
  cases event with
  | tick time =>
      simp only [verifierStep, Option.ite_none_right_eq_some, Option.some.injEq] at hstep
      obtain ⟨-, rfl⟩ := hstep
      exact hframe rfl rfl not_false
  | issue requirement tenantId =>
      simp only [verifierStep, Option.ite_none_left_eq_some, Option.some.injEq] at hstep
      obtain ⟨-, rfl⟩ := hstep
      exact hframe rfl rfl not_false
  | register requirement checkedAt validateProviderRequest =>
      cases hstep
      exact hframe rfl rfl not_false
  | request i route id checkedAt =>
      simp only [verifierStep, Option.ite_none_right_eq_some, Option.some.injEq] at hstep
      obtain ⟨⟨hidle, -⟩, rfl⟩ := hstep
      exact (Spared.request hidle route id checkedAt).trans (and_iff_left not_false).symm
  | submit i body checkedAt =>
      simp only [verifierStep] at hstep
      split at hstep
      · next route requirement hphase =>
          cases hstep
          exact Spared.submit hphase body checkedAt
      · cases hstep
  | finish i succeeds answers =>
      simp only [verifierStep] at hstep
      split at hstep
      · next route requirement hphase =>
          cases hstep
          exact Spared.finish hphase succeeds answers
      · cases hstep
  | cleanUp i =>
      simp only [verifierStep] at hstep
      split at hstep
      · next requirement hphase =>
          cases hstep
          exact (Spared.cleanUp hphase (hissued i requirement hphase)).trans
            (and_iff_left not_false).symm
      · cases hstep
  | ownerDelete id tenantId =>
      cases hstep
      exact (Spared.ownerDelete id tenantId).trans (and_iff_left not_false).symm
  | readAccepted id =>
      cases hstep
      exact (Spared.remove_released _ _).trans (and_iff_left not_false).symm

end Failures

/-! ## Retention -/

section Retention

variable {ι ρ σ : Type} [DecidableEq ι]

/-- The verifier has returned a token for the requirement, which is unexpired
and was released neither by its owner nor by the resource server. -/
structure AwaitsEvaluation (s : VerifierState ι ρ σ) (requirement : HumanRequirement)
    (e : Instant) : Prop where
  token : requirement ∈ s.tokens
  expires : requirement.expiresAt = some e
  unexpired : s.now < e
  unreleased : (requirement.dependencyId, Removal.released) ∉ s.removed

def Returns (requirementStore : RequirementStore ρ) (s : VerifierState ι ρ σ)
    (requirement : HumanRequirement) : Prop :=
  (requirementStore.get requirement.dependencyId s.now s.now s.requirements).1 =
    .ok (some requirement)

def RetainsAwaited (service : X424Service) (nonceStore : NonceStore σ)
    (requirementStore : RequirementStore ρ) : Prop :=
  ∀ now events (s : VerifierState ι ρ σ),
    (verifierMachine service nonceStore requirementStore).run
      (VerifierState.initial nonceStore requirementStore now) events = some s →
    ∀ requirement e, AwaitsEvaluation s requirement e → Returns requirementStore s requirement

/-- In every reachable state a requirement that awaits evaluation is returned, then and after any
requests that have failed have run their catch blocks, if and only if no verify request for it has
failed and it has not lapsed. -/
def RetainsAwaitedIff (service : X424Service) (nonceStore : NonceStore σ)
    (requirementStore : RequirementStore ρ) (lasts : Instant → Instant) (ι : Type)
    [DecidableEq ι] : Prop :=
  ∀ now events (s : VerifierState ι ρ σ),
    (verifierMachine service nonceStore requirementStore).run
      (VerifierState.initial nonceStore requirementStore now) events = some s →
    ∀ requirement e, AwaitsEvaluation s requirement e →
      ((∀ (ids : List ι) (later : VerifierState ι ρ σ),
        (verifierMachine service nonceStore requirementStore).run s
          (ids.map VerifierEvent.cleanUp) = some later →
        Returns requirementStore later requirement) ↔
      (verifierMachine service nonceStore requirementStore).Along
          (fun s event => ¬ FailsFor service nonceStore requirement.dependencyId s event)
          (VerifierState.initial nonceStore requirementStore now) events ∧
        s.now < lasts e)

section Stores

variable {service : X424Service} {nonceStore : NonceStore σ}
  {requirementStore : RequirementStore ρ} {valid : ρ → Prop}
  {entry : ρ → JsString → Option HumanRequirement} {lasts : Instant → Instant}
  {s later : VerifierState ι ρ σ} {requirement : HumanRequirement} {e : Instant}

omit [DecidableEq ι] in
theorem returns_iff (hstore : KeepsRequirements requirementStore valid entry lasts)
    (h : VerifierInvariant valid entry lasts s) (hawaits : AwaitsEvaluation s requirement e) :
    Returns requirementStore s requirement ↔
      (requirement.dependencyId, Removal.cleanedUp) ∉ s.removed ∧ s.now < lasts e := by
  have hlapsed : requirement.lapsed lasts s.now = decide (lasts e ≤ s.now) := by
    rw [HumanRequirement.lapsed, hawaits.expires]
    rfl
  obtain ⟨_, _, hfound, hreturned⟩ :=
    hstore.get requirement.dependencyId h.valid (Int.le_refl s.now)
  constructor
  · intro hreturns
    obtain ⟨hentry, hnow⟩ := hfound requirement hreturns
    rw [hlapsed] at hnow
    exact ⟨(h.stored _ requirement hentry).2 .cleanedUp, Int.not_le.mp (of_decide_eq_false hnow)⟩
  · rintro ⟨hkept, hnow⟩
    have hnow' : requirement.lapsed lasts s.now = false :=
      hlapsed.trans (decide_eq_false (Int.not_le.mpr hnow))
    refine hreturned requirement ?_ hnow'
    rcases (h.tokens requirement hawaits.token).2 with hentry | hgone | ⟨removal, hremoved⟩
    · exact hentry
    · rw [hnow'] at hgone
      cases hgone
    · cases removal with
      | released => exact absurd hremoved hawaits.unreleased
      | cleanedUp => exact absurd hremoved hkept

omit [DecidableEq ι] in
theorem VerifierInvariant.issued (h : VerifierInvariant valid entry lasts s) :
    ∀ i other, s.attempt i = .failing other → other.dependencyId ∈ s.issued := by
  intro i other hfailing
  exact (h.attempts i other (by rw [hfailing]; rfl)).1

theorem AwaitsEvaluation.cleanUp {i : ι} (hawaits : AwaitsEvaluation s requirement e)
    (hstep : verifierStep service nonceStore requirementStore s (.cleanUp i) = some later) :
    AwaitsEvaluation later requirement e ∧ later.now = s.now := by
  simp only [verifierStep] at hstep
  split at hstep
  · next other hphase =>
      cases hstep
      refine ⟨⟨hawaits.token, hawaits.expires, hawaits.unexpired, fun hmem => ?_⟩, rfl⟩
      simp only [VerifierState.setAttempt, VerifierState.remove] at hmem
      split_ifs at hmem
      · rcases List.mem_cons.mp hmem with heq | hmem
        · cases (Prod.ext_iff.mp heq).2
        · exact hawaits.unreleased hmem
      · exact hawaits.unreleased hmem
  · cases hstep

theorem returns_after_cleanUps (hstore : KeepsRequirements requirementStore valid entry lasts)
    {ids : List ι} (h : VerifierInvariant valid entry lasts s)
    (hawaits : AwaitsEvaluation s requirement e) (hspared : Spared requirement.dependencyId s)
    (hnow : s.now < lasts e)
    (hrun : (verifierMachine service nonceStore requirementStore).run s
      (ids.map VerifierEvent.cleanUp) = some later) :
    Returns requirementStore later requirement := by
  induction ids generalizing s with
  | nil =>
      cases hrun
      exact (returns_iff hstore h hawaits).mpr ⟨hspared.removed, hnow⟩
  | cons i ids ih =>
      obtain ⟨next, hstep, hrest⟩ := Machine.run_cons_some _ |>.mp hrun
      have hstep : verifierStep service nonceStore requirementStore s (.cleanUp i) = some next :=
        hstep
      have hnotFails :
          ¬ FailsFor service nonceStore requirement.dependencyId s (.cleanUp i) := not_false
      obtain ⟨hnext, hclock⟩ := hawaits.cleanUp hstep
      exact ih (h.step hstore hstep) hnext
        ((Spared.step h.issued hstep).mpr ⟨hspared, hnotFails⟩) (hclock ▸ hnow) hrest

theorem spared_of_returns (hstore : KeepsRequirements requirementStore valid entry lasts)
    (h : VerifierInvariant valid entry lasts s) (hawaits : AwaitsEvaluation s requirement e)
    (hreturns : ∀ (ids : List ι) (later : VerifierState ι ρ σ),
      (verifierMachine service nonceStore requirementStore).run s
        (ids.map VerifierEvent.cleanUp) = some later → Returns requirementStore later requirement) :
    Spared requirement.dependencyId s := by
  refine ⟨fun i other hfailing hid => ?_,
    ((returns_iff hstore h hawaits).mp (hreturns [] s rfl)).1⟩
  let deleted := requirementStore.delete other.dependencyId s.now s.requirements
  have hstep : verifierStep service nonceStore requirementStore s (.cleanUp i) =
      some ((s.remove deleted.2 other.dependencyId .cleanedUp).setAttempt i .answered) := by
    simp only [verifierStep, hfailing]
    rfl
  have hlater := hreturns [i] _ (Machine.run_cons_some _ |>.mpr ⟨_, hstep, rfl⟩)
  have hkept := (returns_iff hstore (h.step hstore hstep) (hawaits.cleanUp hstep).1).mp hlater
  refine hkept.1 ?_
  have hissued := h.issued i other hfailing
  simp only [VerifierState.setAttempt, VerifierState.remove, if_pos hissued]
  exact List.mem_cons.mpr (.inl (by rw [hid]))

theorem retainsAwaitedIff_of_keeps (hstore : KeepsRequirements requirementStore valid entry lasts) :
    RetainsAwaitedIff service nonceStore requirementStore lasts ι := by
  intro now events s hrun requirement e hawaits
  let M := @verifierMachine ι ρ σ _ service nonceStore requirementStore
  have hstep : ∀ (s : VerifierState ι ρ σ) event next, VerifierInvariant valid entry lasts s →
      M.step s event = some next → VerifierInvariant valid entry lasts next :=
    fun _ _ _ h hstep => h.step hstore hstep
  let start : VerifierState ι ρ σ := VerifierState.initial nonceStore requirementStore now
  have hinitial : VerifierInvariant valid entry lasts start := VerifierInvariant.initial hstore now
  have h : VerifierInvariant valid entry lasts s := M.invariant_run hstep hinitial hrun
  have hunfailed : Spared requirement.dependencyId start :=
    ⟨fun _ _ h => (by cases h), List.not_mem_nil⟩
  have hspared := M.iff_along (J := Spared requirement.dependencyId) hstep
    (fun _ _ _ h hstep => Spared.step h.issued hstep) hinitial hrun
  rw [and_iff_right hunfailed] at hspared
  rw [← hspared]
  constructor
  · intro hreturns
    exact ⟨spared_of_returns hstore h hawaits hreturns,
      ((returns_iff hstore h hawaits).mp (hreturns [] s rfl)).2⟩
  · rintro ⟨hspared, hnow⟩ ids later hlater
    exact returns_after_cleanUps hstore h hawaits hspared hnow hlater

end Stores

/-- What awaits evaluation is retained by each of the three stores, whatever the nonce store, as
long as no verify request for it fails; PostgreSQL lets it lapse at the whole second. -/
structure RequirementsRetained (ι : Type) [DecidableEq ι] (service : X424Service) : Prop where
  inMemory : ∀ (maximumEntries : Nat) {σ : Type} (nonceStore : NonceStore σ),
    RetainsAwaitedIff service nonceStore (inMemoryRequirementStore maximumEntries)
      (fun time => time) ι
  redis : ∀ (keyPrefix : JsString) {σ : Type} (nonceStore : NonceStore σ),
    RetainsAwaitedIff service nonceStore (RedisX424Store.requirements keyPrefix)
      (fun time => time) ι
  postgres : ∀ {σ : Type} (nonceStore : NonceStore σ),
    RetainsAwaitedIff service nonceStore PostgresX424Store.requirements dateStringMs ι

end Retention

/-! ## A losing duplicate -/

namespace Duplicate

def descriptor : HumanMethodDescriptor where
  providerId := js "world"
  methodId := js "proof-of-human"
  version := js "1"
  status := .enabled
  claim := js "one human"
  nonClaims := [js "identity"]
  assuranceLevels := []
  nativeScopeKinds := [.action]
  verificationModes := [.backend]

def service : X424Service where
  catalog key := if key = js "world:proof-of-human" then some descriptor else none
  adapters := [js "world"]

def binding : HumanBinding := ⟨.session, js "s"⟩

def requirement : HumanRequirement where
  x424Version := js "0.1"
  dependencyId := js "d"
  purpose := js "p"
  resource := ⟨js "POST", js "https://a.example/x", js "https://a.example",
    js "sha256:47DEQpj8HBSa-_TImW-5JCeuQeRkm5NMpJWZG3hSuFU"⟩
  nonce := js "n"
  binding := binding
  createdAt := some 0
  expiresAt := some 1000
  accepts := [⟨js "world", js "proof-of-human", js "1", none, [.action], none, none⟩]
  providerRequestKeys := []

def body : ProofBody :=
  .submission ⟨js "0.1", js "d", js "world", js "proof-of-human", binding⟩

/-- Request `true` is verified; request `false` finds the nonce consumed and
cleans up. -/
def events : List (VerifierEvent Bool) :=
  [.issue requirement none, .register requirement 0 fun _ => .ok (),
    .request true .verify (js "d") 0, .request false .verify (js "d") 0,
    .submit true body 0, .submit false body 0, .finish true true true, .cleanUp false]

end Duplicate

theorem requirement_deleted_by_duplicate :
    ¬ RetainsAwaited (ι := Bool) Duplicate.service inMemoryNonceStore
      (inMemoryRequirementStore 10) := by
  intro h
  let store := inMemoryRequirementStore 10
  let M := verifierMachine (ι := Bool) Duplicate.service inMemoryNonceStore store
  let start := VerifierState.initial (ι := Bool) inMemoryNonceStore store 0
  let observed (s : VerifierState Bool RequirementEntries NonceEntries) :=
    (s.tokens, s.now, decide ((js "d", Removal.released) ∈ s.removed),
      (store.get (js "d") s.now s.now s.requirements).1)
  have hobserved : (M.run start Duplicate.events).map observed =
      some ([Duplicate.requirement], 0, false, .ok none) := by decide +kernel
  obtain ⟨s, hrun, hs⟩ := Option.map_eq_some_iff.mp hobserved
  simp only [observed, Prod.mk.injEq] at hs
  obtain ⟨htokens, hnow, hreleased, hget⟩ := hs
  have hawaits : AwaitsEvaluation s Duplicate.requirement 1000 :=
    ⟨by simp [htokens], rfl, by simp [hnow], of_decide_eq_false hreleased⟩
  have hreturns := h 0 _ s hrun _ _ hawaits
  exact absurd (hget.symm.trans hreturns) (by simp)

theorem requirement_retained (ι : Type) [DecidableEq ι] (service : X424Service) :
    RequirementsRetained ι service where
  inMemory maximumEntries _ _ :=
    retainsAwaitedIff_of_keeps (inMemory_keepsRequirements maximumEntries)
  redis keyPrefix _ _ := retainsAwaitedIff_of_keeps (redis_keepsRequirements keyPrefix)
  postgres _ := retainsAwaitedIff_of_keeps postgres_keepsRequirements

end X424
