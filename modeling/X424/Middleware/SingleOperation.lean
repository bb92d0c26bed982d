import X424.Middleware.Resource
import X424.ResultLaws

/-!
# Single-operation use of a result

Each result store keeps its own account of a result id.  A token is therefore
used for one operation as long as all of its mutations go to the same store,
which is what the `Idempotency-Key` requirement brings about.
-/

namespace X424

open Foundation

/-! ## One token -/

section Token

variable {ι ρ σ τ : Type} (sha256 : JsString → JsString) (options : ProtectOptions ρ σ τ)
  (token : JsString) (result : HumanResult) (e : Instant)

def Presentation.spentBy : Presentation → Option (ProtectedRequest × Instant)
  | .spent request _ spentAt | .accepted request spentAt => some (request, spentAt)
  | _ => none

def Spends (presentation : Presentation) (request : ProtectedRequest) : Prop :=
  ∃ spentAt, presentation.spentBy = some (request, spentAt) ∧
    request.humanProof = token ∧ spentAt < e

def Accepts (presentation : Presentation) (request : ProtectedRequest) : Prop :=
  ∃ spentAt, presentation = .accepted request spentAt ∧
    request.humanProof = token ∧ spentAt < e

def SameRequest (request other : ProtectedRequest) : Prop :=
  toUpperCase request.method = toUpperCase other.method ∧ request.uri = other.uri ∧
    request.bodyDigest = other.bodyDigest

/-- The accepted presentations of the token are one operation: the mutations
carry one key, or there is one without a key; there is one read; and they are
all of one request, unless SHA-256 collides on two of them. -/
structure SingleOperation (s : ResourceState ι ρ σ τ) : Prop where
  mutations : ∀ {i j request other}, Accepts token e (s.presentation i) request →
    Accepts token e (s.presentation j) other → request.mutation → other.mutation →
    (∃ key, request.operationId = some key ∧ other.operationId = some key) ∨
      (i = j ∧ request.operationId = none)
  reads : ∀ {i j request other}, Accepts token e (s.presentation i) request →
    Accepts token e (s.presentation j) other → ¬ request.mutation → ¬ other.mutation → i = j
  oneRequest : ∀ {i j request other}, Accepts token e (s.presentation i) request →
    Accepts token e (s.presentation j) other →
    (request.digest sha256 = other.digest sha256 →
      requestPreimage request.method request.uri request.bodyDigest =
        requestPreimage other.method other.uri other.bodyDigest) →
    SameRequest request other

def LeavesResultAlone (request : ProtectedRequest) : Prop :=
  request.humanProof = token ∨ ∀ other,
    options.verifyHumanResultToken request.humanProof = .ok other →
      other.resultId ≠ result.resultId

/-- A mutation that presents the token for its request has a key, or has none. -/
def KeyedAs (keyed : Bool) (request : ProtectedRequest) : Prop :=
  request.humanProof = token → request.mutation → request.digest sha256 = result.requestDigest →
    request.operationId.isSome = keyed

/-- All mutations of the token go to the same store: the options ask for a key,
or the mutations that present the token for its request all have one or all
have none. -/
def OneStore (events : List (ResourceEvent ι ρ)) : Prop :=
  options.deploymentProfile ≠ .devLocal ∨ options.requireIdempotencyKey ≠ some false ∨
    ∃ keyed, ∀ id request, .present id request ∈ events →
      KeyedAs sha256 token result keyed request

/-! ### The invariant -/

variable (keyed : Bool)

def PresentationSound (now : Instant) : Presentation → Prop
  | .previewed request startedAt _ => startedAt ≤ now ∧
      LeavesResultAlone options token result request ∧ KeyedAs sha256 token result keyed request
  | .checked request startedAt _ found => startedAt ≤ now ∧
      LeavesResultAlone options token result request ∧
      KeyedAs sha256 token result keyed request ∧
      options.verifyHumanResultToken request.humanProof = .ok found ∧
      found.requestDigest = request.digest sha256
  | .spent request _ _ | .accepted request _ => request.humanProof = token →
      request.digest sha256 = result.requestDigest ∧ KeyedAs sha256 token result keyed request
  | .idle | .rejected => True

structure TokenInvariant (holdsReplay : JsString → Instant → Option Unit → σ → Prop)
    (holdsAcceptance : JsString → Instant → Option AcceptedOperation → τ → Prop)
    (s : ResourceState ι ρ σ τ) : Prop where
  sound : ∀ i, PresentationSound sha256 options token result keyed s.now (s.presentation i)
  replays : s.now < e → ∃ spent, holdsReplay result.resultId e spent s.replays ∧
    ∀ i request, Spends token e (s.presentation i) request →
      options.useAcceptance request = false → spent = some ()
  acceptances : s.now < e → ∃ bound, holdsAcceptance result.resultId e bound s.acceptances ∧
    ∀ i request, Spends token e (s.presentation i) request → options.useAcceptance request →
      ∃ key, request.operationId = some key ∧ bound = some ⟨key, result.requestDigest⟩
  oneKey : ∀ i j request other, Spends token e (s.presentation i) request →
    Spends token e (s.presentation j) other → options.useAcceptance request →
    options.useAcceptance other → request.operationId = other.operationId
  oneConsume : ∀ i j request other, Spends token e (s.presentation i) request →
    Spends token e (s.presentation j) other → options.useAcceptance request = false →
    options.useAcceptance other = false → i = j

variable {sha256 options token result e keyed}

theorem Accepts.spends {presentation : Presentation} {request : ProtectedRequest}
    (h : Accepts token e presentation request) : Spends token e presentation request := by
  obtain ⟨spentAt, rfl, hpresents⟩ := h
  exact ⟨spentAt, rfl, hpresents⟩

theorem not_spends {presentation : Presentation} (h : presentation.spentBy = none)
    (request : ProtectedRequest) : ¬ Spends token e presentation request := by
  rintro ⟨spentAt, hspent, _⟩
  rw [h] at hspent
  cases hspent

theorem PresentationSound.later {now time : Instant} (hle : now ≤ time)
    {presentation : Presentation}
    (h : PresentationSound sha256 options token result keyed now presentation) :
    PresentationSound sha256 options token result keyed time presentation := by
  cases presentation with
  | previewed request startedAt preview => exact ⟨Int.le_trans h.1 hle, h.2⟩
  | checked request startedAt requirement found => exact ⟨Int.le_trans h.1 hle, h.2⟩
  | spent request requirement spentAt => exact h
  | accepted request spentAt => exact h
  | idle => trivial
  | rejected => trivial

theorem keyed_of_previewed {request : ProtectedRequest} {preview : HumanResult}
    (hoptions : options.deploymentProfile ≠ .devLocal ∨
      options.requireIdempotencyKey ≠ some false)
    (hkey : options.lacksIdempotencyKey request = false)
    (hpreview : options.previewToken request = .ok preview) (hmutation : request.mutation) :
    request.operationId.isSome = true := by
  rw [← Option.not_isNone, Bool.not_eq_true']
  by_contra hnone
  rw [Bool.not_eq_false] at hnone
  rcases hoptions with hhosted | hrequired
  · simp [ProtectOptions.previewToken, hhosted, hmutation, hnone] at hpreview
    split_ifs at hpreview
  · have hread : readMethods.contains request.method := by
      simpa [ProtectOptions.lacksIdempotencyKey, hrequired, hnone] using hkey
    have hupper : ∀ method ∈ readMethods, readMethods.contains (toUpperCase method) := by
      decide
    have hreads := hupper request.method (List.contains_iff_mem.mp hread)
    rw [ProtectedRequest.mutation, hreads] at hmutation
    cases hmutation

namespace TokenInvariant

variable {holdsReplay : JsString → Instant → Option Unit → σ → Prop}
  {holdsAcceptance : JsString → Instant → Option AcceptedOperation → τ → Prop}
  {s : ResourceState ι ρ σ τ} {replay : ResultReplayStore σ}
  {acceptance : ResultAcceptanceStore τ}

theorem initial (hreplay : SpendsResults replay holdsReplay)
    (hacceptance : BindsResults acceptance holdsAcceptance) (now : Instant)
    (requirements : ρ) :
    TokenInvariant sha256 options token result e keyed holdsReplay holdsAcceptance
      (ResourceState.initial now requirements replay.empty acceptance.empty :
        ResourceState ι ρ σ τ) where
  sound _ := trivial
  replays _ := ⟨none, hreplay.empty _ _, fun _ request h => absurd h (not_spends rfl request)⟩
  acceptances _ :=
    ⟨none, hacceptance.empty _ _, fun _ request h => absurd h (not_spends rfl request)⟩
  oneKey _ _ request _ h := absurd h (not_spends rfl request)
  oneConsume _ _ request _ h := absurd h (not_spends rfl request)

theorem tick {time : Instant} (hle : s.now ≤ time)
    (h : TokenInvariant sha256 options token result e keyed holdsReplay holdsAcceptance s) :
    TokenInvariant sha256 options token result e keyed holdsReplay holdsAcceptance
      { s with now := time } where
  sound i := (h.sound i).later hle
  replays htime := h.replays (Int.lt_of_le_of_lt hle htime)
  acceptances htime := h.acceptances (Int.lt_of_le_of_lt hle htime)
  oneKey := h.oneKey
  oneConsume := h.oneConsume

variable [DecidableEq ι]

private theorem sound_update {i : ι} {presentation : Presentation}
    (h : TokenInvariant sha256 options token result e keyed holdsReplay holdsAcceptance s)
    (hsound : PresentationSound sha256 options token result keyed s.now presentation) (j : ι) :
    PresentationSound sha256 options token result keyed s.now
      (Function.update s.presentation i presentation j) := by
  by_cases hj : j = i
  · subst hj
    rwa [Function.update_self]
  · rw [Function.update_of_ne hj]
    exact h.sound j

private theorem spends_update {i j : ι} {presentation : Presentation}
    {request other : ProtectedRequest} {spentAt : Instant}
    (hspent : presentation.spentBy = some (request, spentAt))
    (h : Spends token e (Function.update s.presentation i presentation j) other) :
    (j = i ∧ other = request) ∨ Spends token e (s.presentation j) other := by
  by_cases hj : j = i
  · subst hj
    obtain ⟨otherAt, hother, _⟩ := h
    rw [Function.update_self, hspent, Option.some.injEq, Prod.mk.injEq] at hother
    exact Or.inl ⟨rfl, hother.1.symm⟩
  · rw [Function.update_of_ne hj] at h
    exact Or.inr h

/-- A step in which the token is not spent, whatever it does to the stores. -/
theorem quiet {i : ι} {presentation : Presentation} {requirements : ρ} {replays : σ}
    {acceptances : τ}
    (h : TokenInvariant sha256 options token result e keyed holdsReplay holdsAcceptance s)
    (hsound : PresentationSound sha256 options token result keyed s.now presentation)
    (hquiet : ∀ request, Spends token e presentation request →
      Spends token e (s.presentation i) request)
    (hreplays : s.now < e → ∀ spent, holdsReplay result.resultId e spent s.replays →
      holdsReplay result.resultId e spent replays)
    (hacceptances : s.now < e → ∀ bound, holdsAcceptance result.resultId e bound s.acceptances →
      holdsAcceptance result.resultId e bound acceptances) :
    TokenInvariant sha256 options token result e keyed holdsReplay holdsAcceptance
      (ResourceState.setPresentation ⟨s.now, requirements, replays, acceptances,
        s.presentation⟩ i presentation) := by
  have hbefore : ∀ j request,
      Spends token e (Function.update s.presentation i presentation j) request →
      Spends token e (s.presentation j) request := by
    intro j request hspends
    by_cases hj : j = i
    · subst hj
      rw [Function.update_self] at hspends
      exact hquiet request hspends
    · rwa [Function.update_of_ne hj] at hspends
  refine ⟨h.sound_update hsound, fun hnow => ?_, fun hnow => ?_, ?_, ?_⟩
  · obtain ⟨spent, hholds, hspent⟩ := h.replays hnow
    exact ⟨spent, hreplays hnow spent hholds, fun j request hspends =>
      hspent j request (hbefore j request hspends)⟩
  · obtain ⟨bound, hholds, hbound⟩ := h.acceptances hnow
    exact ⟨bound, hacceptances hnow bound hholds, fun j request hspends =>
      hbound j request (hbefore j request hspends)⟩
  · exact fun j k request other hj hk =>
      h.oneKey j k request other (hbefore j request hj) (hbefore k other hk)
  · exact fun j k request other hj hk =>
      h.oneConsume j k request other (hbefore j request hj) (hbefore k other hk)

theorem accepted {i : ι} {request : ProtectedRequest} {acceptances : τ} {key : JsString}
    {bound : Option AcceptedOperation}
    (h : TokenInvariant sha256 options token result e keyed holdsReplay holdsAcceptance s)
    (hsound : PresentationSound sha256 options token result keyed s.now
      (.accepted request s.now))
    (huse : options.useAcceptance request) (hkey : request.operationId = some key)
    (hbefore : ∀ j other, Spends token e (s.presentation j) other →
      options.useAcceptance other →
      ∃ key, other.operationId = some key ∧ bound = some ⟨key, result.requestDigest⟩)
    (hbound : bound = none ∨ bound = some ⟨key, result.requestDigest⟩)
    (hholds : holdsAcceptance result.resultId e (some ⟨key, result.requestDigest⟩)
      acceptances) :
    TokenInvariant sha256 options token result e keyed holdsReplay holdsAcceptance
      (ResourceState.setPresentation ⟨s.now, s.requirements, s.replays, acceptances,
        s.presentation⟩ i (.accepted request s.now)) := by
  have hspends : ∀ j other,
      Spends token e (Function.update s.presentation i (.accepted request s.now) j) other →
      (j = i ∧ other = request) ∨ Spends token e (s.presentation j) other :=
    fun j other => spends_update rfl
  have hkeys : ∀ j other,
      Spends token e (Function.update s.presentation i (.accepted request s.now) j) other →
      options.useAcceptance other → other.operationId = some key := by
    intro j other hother huseOther
    rcases hspends j other hother with ⟨_, rfl⟩ | hother
    · exact hkey
    · obtain ⟨key', hkey', hsome⟩ := hbefore j other hother huseOther
      rcases hbound with hnone | hsame
      · rw [hnone] at hsome
        cases hsome
      · rw [hsame] at hsome
        cases hsome
        exact hkey'
  refine ⟨h.sound_update hsound, fun hnow => ?_, fun _ => ?_, ?_, ?_⟩
  · obtain ⟨spent, hreplays, hspent⟩ := h.replays hnow
    refine ⟨spent, hreplays, fun j other hother huseOther => ?_⟩
    rcases hspends j other hother with ⟨_, rfl⟩ | hother
    · rw [huse] at huseOther
      cases huseOther
    · exact hspent j other hother huseOther
  · exact ⟨_, hholds, fun j other hother huseOther => ⟨key, hkeys j other hother huseOther, rfl⟩⟩
  · intro j k other other' hj hk huseOther huseOther'
    rw [hkeys j other hj huseOther, hkeys k other' hk huseOther']
  · intro j k other other' hj hk huseOther huseOther'
    rcases hspends j other hj with ⟨_, rfl⟩ | hj
    · rw [huse] at huseOther
      cases huseOther
    · rcases hspends k other' hk with ⟨_, rfl⟩ | hk
      · rw [huse] at huseOther'
        cases huseOther'
      · exact h.oneConsume j k other other' hj hk huseOther huseOther'

theorem consumed {i : ι} {request : ProtectedRequest} {presentation : Presentation}
    {replays : σ}
    (h : TokenInvariant sha256 options token result e keyed holdsReplay holdsAcceptance s)
    (hnow : s.now < e)
    (hsound : PresentationSound sha256 options token result keyed s.now presentation)
    (hspent : presentation.spentBy = some (request, s.now))
    (huse : options.useAcceptance request = false)
    (hbefore : ∀ j other, Spends token e (s.presentation j) other →
      options.useAcceptance other)
    (hholds : holdsReplay result.resultId e (some ()) replays) :
    TokenInvariant sha256 options token result e keyed holdsReplay holdsAcceptance
      (ResourceState.setPresentation ⟨s.now, s.requirements, replays, s.acceptances,
        s.presentation⟩ i presentation) := by
  have hspends : ∀ j other,
      Spends token e (Function.update s.presentation i presentation j) other →
      (j = i ∧ other = request) ∨ Spends token e (s.presentation j) other :=
    fun j other => spends_update hspent
  have hself : ∀ j other,
      Spends token e (Function.update s.presentation i presentation j) other →
      options.useAcceptance other = false → j = i := by
    intro j other hother huseOther
    rcases hspends j other hother with ⟨rfl, _⟩ | hother
    · rfl
    · rw [hbefore j other hother] at huseOther
      cases huseOther
  have hothers : ∀ j other,
      Spends token e (Function.update s.presentation i presentation j) other →
      options.useAcceptance other → Spends token e (s.presentation j) other := by
    intro j other hother huseOther
    rcases hspends j other hother with ⟨_, rfl⟩ | hother
    · rw [huse] at huseOther
      cases huseOther
    · exact hother
  refine ⟨h.sound_update hsound, fun _ => ⟨_, hholds, fun _ _ _ _ => rfl⟩, fun _ => ?_, ?_, ?_⟩
  · obtain ⟨bound, hacceptances, hbound⟩ := h.acceptances hnow
    exact ⟨bound, hacceptances, fun j other hother huseOther =>
      hbound j other (hothers j other hother huseOther) huseOther⟩
  · intro j k other other' hj hk huseOther huseOther'
    exact h.oneKey j k other other' (hothers j other hj huseOther)
      (hothers k other' hk huseOther') huseOther huseOther'
  · intro j k other other' hj hk huseOther huseOther'
    rw [hself j other hj huseOther, hself k other' hk huseOther']

end TokenInvariant

section Spend

variable [DecidableEq ι] {s : ResourceState ι ρ σ τ} {i : ι} {request : ProtectedRequest}
  {startedAt : Instant} {requirement : HumanRequirement} {found : HumanResult}

theorem spend_acceptance {acceptance : ResultAcceptanceStore τ} {key : JsString}
    (hstore : options.resultAcceptanceStore = some acceptance)
    (hmutation : request.mutation = true) (hkey : request.operationId = some key) :
    let reply := acceptance.accept
      ⟨found.resultId, key, found.requestDigest, found.expiresAt⟩ startedAt s.now s.acceptances
    s.spend options i request startedAt requirement found =
      ResourceState.setPresentation ⟨s.now, s.requirements, s.replays, reply.2, s.presentation⟩ i
        (if acceptedReply reply.1 then .accepted request s.now else .rejected) := by
  intro reply
  have hspend : options.spendResult request found startedAt s.now s.replays s.acceptances =
      ProtectOptions.acceptanceOutcome reply s.replays := by
    simp only [ProtectOptions.spendResult, hstore, hkey, hmutation]
    rfl
  rw [ResourceState.spend, hspend]
  generalize reply = reply
  obtain ⟨error | status, acceptances⟩ := reply
  · simp [ProtectOptions.acceptanceOutcome]
  · cases status <;> simp [ProtectOptions.acceptanceOutcome, hmutation]

theorem spend_consume {replay : ResultReplayStore σ}
    (hstore : options.replayStore = some replay)
    (huse : options.useAcceptance request = false) :
    let reply := replay.consume found.resultId found.expiresAt startedAt s.now s.replays
    s.spend options i request startedAt requirement found =
      ResourceState.setPresentation ⟨s.now, s.requirements, reply.2, s.acceptances,
          s.presentation⟩ i
        (if reply.1 = .ok true then
          (if request.mutation then .accepted request s.now
            else .spent request requirement s.now)
          else .rejected) := by
  intro reply
  have hspend : options.spendResult request found startedAt s.now s.replays s.acceptances =
      ProtectOptions.consumptionOutcome reply s.acceptances := by
    unfold ProtectOptions.spendResult
    simp only [hstore]
    cases hacceptance : options.resultAcceptanceStore with
    | none => rfl
    | some acceptance =>
        cases hkey : request.operationId with
        | none => rfl
        | some key =>
            have hread : request.mutation = false := by
              simpa [ProtectOptions.useAcceptance, hacceptance, hkey] using huse
            simp only [hread]
            rfl
  rw [ResourceState.spend, hspend]
  generalize reply = reply
  obtain ⟨error | consumed, replays⟩ := reply
  · simp [ProtectOptions.consumptionOutcome]
  · cases consumed
    · simp [ProtectOptions.consumptionOutcome]
    · cases request.mutation <;> rfl

end Spend

namespace TokenInvariant

variable {holdsReplay : JsString → Instant → Option Unit → σ → Prop}
  {holdsAcceptance : JsString → Instant → Option AcceptedOperation → τ → Prop}
  {s next : ResourceState ι ρ σ τ} {replay : ResultReplayStore σ}
  {acceptance : ResultAcceptanceStore τ} [DecidableEq ι]

theorem present {i : ι} {request : ProtectedRequest}
    (h : TokenInvariant sha256 options token result e keyed holdsReplay holdsAcceptance s)
    (halone : LeavesResultAlone options token result request)
    (hkeyed : ∀ preview, options.lacksIdempotencyKey request = false →
      options.previewToken request = .ok preview → KeyedAs sha256 token result keyed request) :
    TokenInvariant sha256 options token result e keyed holdsReplay holdsAcceptance
      (s.setPresentation i (s.present options request)) := by
  have hsound : PresentationSound sha256 options token result keyed s.now
        (s.present options request) ∧ (s.present options request).spentBy = none := by
    unfold ResourceState.present
    split_ifs with hkey
    · exact ⟨trivial, rfl⟩
    · cases hpreview : options.previewToken request with
      | error error => exact ⟨trivial, rfl⟩
      | ok preview =>
          rw [Bool.not_eq_true] at hkey
          exact ⟨⟨Int.le_refl _, halone, hkeyed preview hkey hpreview⟩, rfl⟩
  exact h.quiet hsound.1 (fun _ hspends => absurd hspends (not_spends hsound.2 _))
    (fun _ _ h => h) (fun _ _ h => h)

theorem checkPresentation_ok {request : ProtectedRequest} {requirement : HumanRequirement}
    {now : Instant} {found : HumanResult}
    (h : options.checkPresentation request sha256 requirement now = .ok found) :
    options.verifyHumanResultToken request.humanProof = .ok found ∧
      found.requestDigest = request.digest sha256 := by
  unfold ProtectOptions.checkPresentation at h
  cases hcurrent : options.assertCurrentMatchesStored request sha256 requirement with
  | error error =>
      rw [hcurrent] at h
      cases h
  | ok _ =>
      have hdigest : requirement.resource.requestDigest = request.digest sha256 := by
        unfold ProtectOptions.assertCurrentMatchesStored at hcurrent
        split_ifs at hcurrent with _ _ _ _ hdigest
        exact not_not.mp hdigest
      rw [hcurrent] at h
      change options.verifyHumanProof request requirement now = .ok found at h
      unfold ProtectOptions.verifyHumanProof at h
      simp only at h
      split_ifs at h with hrefused
      cases hverified : options.verifyHumanResultToken request.humanProof with
      | error error =>
          rw [hverified] at h
          cases h
      | ok verified =>
          rw [hverified] at h
          simp only [bind, Except.bind] at h
          split_ifs at h with hsatisfied
          cases h
          exact ⟨rfl, (requestDigest_of_satisfied hsatisfied).trans hdigest⟩

theorem lookUp {i : ι} {request : ProtectedRequest} {startedAt : Instant}
    {preview : HumanResult}
    (h : TokenInvariant sha256 options token result e keyed holdsReplay holdsAcceptance s)
    (hphase : s.presentation i = .previewed request startedAt preview) :
    TokenInvariant sha256 options token result e keyed holdsReplay holdsAcceptance
      (s.lookUp sha256 options i request startedAt preview) := by
  have hpreviewed : PresentationSound sha256 options token result keyed s.now
      (.previewed request startedAt preview) := hphase ▸ h.sound i
  obtain ⟨hstarted, halone, hkeyed⟩ := hpreviewed
  have hquiet : ∀ {presentation requirements},
      PresentationSound sha256 options token result keyed s.now presentation →
      presentation.spentBy = none →
      TokenInvariant sha256 options token result e keyed holdsReplay holdsAcceptance
        (ResourceState.setPresentation ⟨s.now, requirements, s.replays, s.acceptances,
          s.presentation⟩ i presentation) := fun hsound hspent =>
    h.quiet hsound (fun _ hspends => absurd hspends (not_spends hspent _)) (fun _ _ h => h)
      (fun _ _ h => h)
  simp only [ResourceState.lookUp]
  cases (options.requirementStore.get preview.dependencyId startedAt s.now s.requirements).1 with
  | error error => exact hquiet trivial rfl
  | ok requirement =>
      cases requirement with
      | none => exact hquiet trivial rfl
      | some requirement =>
          simp only
          cases hcheck : options.checkPresentation request sha256 requirement startedAt with
          | error error => exact hquiet trivial rfl
          | ok found =>
              obtain ⟨hverified, hdigest⟩ := checkPresentation_ok hcheck
              exact hquiet ⟨hstarted, halone, hkeyed, hverified, hdigest⟩ rfl

theorem cleanUp {i : ι} {request : ProtectedRequest} {requirement : HumanRequirement}
    {spentAt : Instant}
    (h : TokenInvariant sha256 options token result e keyed holdsReplay holdsAcceptance s)
    (hphase : s.presentation i = .spent request requirement spentAt) :
    TokenInvariant sha256 options token result e keyed holdsReplay holdsAcceptance
      (s.cleanUp options i request requirement spentAt) := by
  have hsound : PresentationSound sha256 options token result keyed s.now
      (.accepted request spentAt) := by
    have := h.sound i
    rwa [hphase] at this
  simp only [ResourceState.cleanUp]
  cases (options.requirementStore.delete requirement.dependencyId s.now s.requirements).1 with
  | ok _ =>
      refine h.quiet hsound (fun other hspends => ?_) (fun _ _ h => h) (fun _ _ h => h)
      rw [hphase]
      exact hspends
  | error error =>
      have hrejected : PresentationSound sha256 options token result keyed s.now .rejected :=
        trivial
      exact h.quiet hrejected (fun _ hspends => absurd hspends (not_spends rfl _))
        (fun _ _ h => h) (fun _ _ h => h)

theorem useAcceptance_cases {request : ProtectedRequest}
    (h : options.useAcceptance request = true) :
    request.mutation = true ∧ ∃ key, request.operationId = some key := by
  simp only [ProtectOptions.useAcceptance, Bool.and_eq_true] at h
  exact ⟨h.1.1, Option.isSome_iff_exists.mp h.2⟩

theorem spend_unseen {i : ι} {request : ProtectedRequest} {startedAt : Instant}
    {requirement : HumanRequirement} {found : HumanResult}
    (hreplayStore : options.replayStore = some replay)
    (hacceptanceStore : options.resultAcceptanceStore = some acceptance)
    (h : TokenInvariant sha256 options token result e keyed holdsReplay holdsAcceptance s)
    (hspent : request.humanProof = token →
      request.digest sha256 = result.requestDigest ∧ KeyedAs sha256 token result keyed request)
    (hunseen : request.humanProof = token → ¬ s.now < e)
    (hreplays : s.now < e → ∀ spent, holdsReplay result.resultId e spent s.replays →
      holdsReplay result.resultId e spent
        (replay.consume found.resultId found.expiresAt startedAt s.now s.replays).2)
    (hacceptances : s.now < e → ∀ key bound,
      holdsAcceptance result.resultId e bound s.acceptances →
      holdsAcceptance result.resultId e bound
        (acceptance.accept ⟨found.resultId, key, found.requestDigest, found.expiresAt⟩
          startedAt s.now s.acceptances).2) :
    TokenInvariant sha256 options token result e keyed holdsReplay holdsAcceptance
      (s.spend options i request startedAt requirement found) := by
  have hquiet : ∀ {presentation replays acceptances},
      PresentationSound sha256 options token result keyed s.now presentation →
      (∀ other spentAt, presentation.spentBy = some (other, spentAt) →
        other = request ∧ spentAt = s.now) →
      (s.now < e → ∀ spent, holdsReplay result.resultId e spent s.replays →
        holdsReplay result.resultId e spent replays) →
      (s.now < e → ∀ bound, holdsAcceptance result.resultId e bound s.acceptances →
        holdsAcceptance result.resultId e bound acceptances) →
      TokenInvariant sha256 options token result e keyed holdsReplay holdsAcceptance
        (ResourceState.setPresentation ⟨s.now, s.requirements, replays, acceptances,
          s.presentation⟩ i presentation) := by
    intro presentation replays acceptances hsound hself hreplays hacceptances
    refine h.quiet hsound (fun other hspends => ?_) hreplays hacceptances
    obtain ⟨spentAt, hspentBy, htoken, htime⟩ := hspends
    obtain ⟨rfl, rfl⟩ := hself other spentAt hspentBy
    exact absurd htime (hunseen htoken)
  by_cases huse : options.useAcceptance request = true
  · obtain ⟨hmutation, key, hkey⟩ := useAcceptance_cases huse
    rw [spend_acceptance hacceptanceStore hmutation hkey]
    split_ifs
    · refine hquiet hspent ?_ (fun _ _ h => h) fun hnow => hacceptances hnow key
      rintro other spentAt hother
      cases hother
      exact ⟨rfl, rfl⟩
    · exact hquiet trivial (fun _ _ hother => nomatch hother) (fun _ _ h => h)
        fun hnow => hacceptances hnow key
  · rw [Bool.not_eq_true] at huse
    rw [spend_consume hreplayStore huse]
    split_ifs
    · refine hquiet hspent ?_ hreplays fun _ _ h => h
      rintro other spentAt hother
      cases hother
      exact ⟨rfl, rfl⟩
    · refine hquiet hspent ?_ hreplays fun _ _ h => h
      rintro other spentAt hother
      cases hother
      exact ⟨rfl, rfl⟩
    · exact hquiet trivial (fun _ _ hother => nomatch hother) hreplays fun _ _ h => h

theorem spend {i : ι} {request : ProtectedRequest} {startedAt : Instant}
    {requirement : HumanRequirement} {found : HumanResult}
    (hreplay : SpendsResults replay holdsReplay)
    (hacceptance : BindsResults acceptance holdsAcceptance)
    (hreplayStore : options.replayStore = some replay)
    (hacceptanceStore : options.resultAcceptanceStore = some acceptance)
    (hvalid : options.verifyHumanResultToken token = .ok result)
    (hexpires : result.expiresAt = some e)
    (h : TokenInvariant sha256 options token result e keyed holdsReplay holdsAcceptance s)
    (hphase : s.presentation i = .checked request startedAt requirement found) :
    TokenInvariant sha256 options token result e keyed holdsReplay holdsAcceptance
      (s.spend options i request startedAt requirement found) := by
  have hchecked : PresentationSound sha256 options token result keyed s.now
      (.checked request startedAt requirement found) := hphase ▸ h.sound i
  obtain ⟨hstarted, halone, hkeyed, hverified, hdigest⟩ := hchecked
  have hrejected : PresentationSound sha256 options token result keyed s.now .rejected := trivial
  by_cases htoken : request.humanProof = token
  · have hfound : found = result := by
      rw [htoken, hvalid] at hverified
      cases hverified
      rfl
    subst hfound
    have hspent : request.humanProof = token →
        request.digest sha256 = found.requestDigest ∧ KeyedAs sha256 token found keyed request :=
      fun _ => ⟨hdigest.symm, hkeyed⟩
    by_cases hnow : s.now < e
    · by_cases huse : options.useAcceptance request = true
      · obtain ⟨hmutation, key, hkey⟩ := useAcceptance_cases huse
        obtain ⟨bound, hholds, hbefore⟩ := h.acceptances hnow
        rw [spend_acceptance hacceptanceStore hmutation hkey, hexpires]
        rcases hacceptance.accept ⟨key, found.requestDigest⟩ hholds hstarted hnow with
          ⟨haccepted, hbound, hholds⟩ | ⟨hreplayed, hholds'⟩
        · rw [if_pos haccepted]
          exact h.accepted hspent huse hkey hbefore hbound hholds
        · rw [if_neg hreplayed]
          refine h.quiet hrejected (fun _ hspends => absurd hspends (not_spends rfl _))
            (fun _ _ h => h) (fun _ bound' hbound' => ?_)
          have hlaw := hacceptance.accept ⟨key, found.requestDigest⟩ hbound' hstarted hnow
          exact (hlaw.resolve_left fun haccepted => hreplayed haccepted.1).2
      · rw [Bool.not_eq_true] at huse
        rw [spend_consume hreplayStore huse, hexpires]
        obtain ⟨spent, hholds, hbefore⟩ := h.replays hnow
        rcases hreplay.consume hholds hstarted hnow with
          ⟨hconsumed, hfree, hholds⟩ | ⟨hrefused, hholds'⟩
        · have hothers : ∀ j other, Spends token e (s.presentation j) other →
              options.useAcceptance other := by
            intro j other hspends
            by_contra hother
            have := hbefore j other hspends (Bool.not_eq_true _ ▸ hother)
            rw [hfree] at this
            cases this
          rw [if_pos hconsumed]
          split_ifs
          · exact h.consumed hnow hspent rfl huse hothers hholds
          · exact h.consumed hnow hspent rfl huse hothers hholds
        · rw [if_neg hrefused]
          refine h.quiet hrejected (fun _ hspends => absurd hspends (not_spends rfl _))
            (fun _ spent' hspent' => ?_) (fun _ _ h => h)
          have hlaw := hreplay.consume hspent' hstarted hnow
          exact (hlaw.resolve_left fun hconsumed => hrefused hconsumed.1).2
    · exact h.spend_unseen hreplayStore hacceptanceStore hspent (fun _ => hnow)
        (fun hnow' => absurd hnow' hnow) fun hnow' => absurd hnow' hnow
  · have hother : found.resultId ≠ result.resultId :=
      halone.resolve_left htoken found hverified
    exact h.spend_unseen hreplayStore hacceptanceStore (fun h => absurd h htoken)
      (fun h => absurd h htoken)
      (fun hnow _ hholds => hreplay.other hholds hstarted hnow hother)
      fun hnow _ _ hholds => hacceptance.other hholds hstarted hnow hother

/-- What an event has to meet for the token's mutations to stay in one store. -/
def Guarded (sha256 : JsString → JsString) (options : ProtectOptions ρ σ τ)
    (token : JsString) (result : HumanResult) (keyed : Bool) :
    ResourceEvent ι ρ → Prop
  | .present _ request => LeavesResultAlone options token result request ∧
      ∀ preview, options.lacksIdempotencyKey request = false →
        options.previewToken request = .ok preview → KeyedAs sha256 token result keyed request
  | _ => True

theorem step (hreplay : SpendsResults replay holdsReplay)
    (hacceptance : BindsResults acceptance holdsAcceptance)
    (hreplayStore : options.replayStore = some replay)
    (hacceptanceStore : options.resultAcceptanceStore = some acceptance)
    (hvalid : options.verifyHumanResultToken token = .ok result)
    (hexpires : result.expiresAt = some e)
    (h : TokenInvariant sha256 options token result e keyed holdsReplay holdsAcceptance s)
    {event : ResourceEvent ι ρ} (hguard : Guarded sha256 options token result keyed event)
    (hstep : resourceStep sha256 options s event = some next) :
    TokenInvariant sha256 options token result e keyed holdsReplay holdsAcceptance next := by
  cases event with
  | tick time =>
      simp only [resourceStep, Option.ite_none_right_eq_some, Option.some.injEq] at hstep
      obtain ⟨hle, rfl⟩ := hstep
      exact h.tick hle
  | requirementsChange requirements =>
      cases hstep
      exact ⟨h.sound, h.replays, h.acceptances, h.oneKey, h.oneConsume⟩
  | present i request =>
      simp only [resourceStep] at hstep
      split at hstep
      · cases hstep
        exact h.present hguard.1 hguard.2
      · cases hstep
  | lookUp i =>
      simp only [resourceStep] at hstep
      split at hstep
      · next hphase =>
          cases hstep
          exact h.lookUp hphase
      · cases hstep
  | spend i =>
      simp only [resourceStep] at hstep
      split at hstep
      · next hphase =>
          cases hstep
          exact h.spend hreplay hacceptance hreplayStore hacceptanceStore hvalid hexpires hphase
      · cases hstep
  | cleanUp i =>
      simp only [resourceStep] at hstep
      split at hstep
      · next hphase =>
          cases hstep
          exact h.cleanUp hphase
      · cases hstep
  | fail i =>
      simp only [resourceStep, Option.ite_none_right_eq_some, Option.some.injEq] at hstep
      obtain ⟨_, rfl⟩ := hstep
      have hrejected : PresentationSound sha256 options token result keyed s.now .rejected :=
        trivial
      exact h.quiet hrejected (fun _ hspends => absurd hspends (not_spends rfl _))
        (fun _ _ h => h) (fun _ _ h => h)

theorem run (hreplay : SpendsResults replay holdsReplay)
    (hacceptance : BindsResults acceptance holdsAcceptance)
    (hreplayStore : options.replayStore = some replay)
    (hacceptanceStore : options.resultAcceptanceStore = some acceptance)
    (hvalid : options.verifyHumanResultToken token = .ok result)
    (hexpires : result.expiresAt = some e)
    (h : TokenInvariant sha256 options token result e keyed holdsReplay holdsAcceptance s)
    {events : List (ResourceEvent ι ρ)}
    (hguard : ∀ event ∈ events, Guarded sha256 options token result keyed event)
    (hrun : (resourceMachine sha256 options).run s events = some next) :
    TokenInvariant sha256 options token result e keyed holdsReplay holdsAcceptance next := by
  induction events generalizing s with
  | nil =>
      cases hrun
      exact h
  | cons event events ih =>
      obtain ⟨middle, hstep, hrest⟩ := (Machine.run_cons_some _).mp hrun
      have hmiddle := h.step hreplay hacceptance hreplayStore hacceptanceStore hvalid hexpires
        (hguard event List.mem_cons_self) hstep
      exact ih hmiddle (fun other hother => hguard other (List.mem_cons_of_mem event hother))
        hrest

omit [DecidableEq ι] in
theorem singleOperation
    (hacceptanceStore : options.resultAcceptanceStore = some acceptance)
    (h : TokenInvariant sha256 options token result e keyed holdsReplay holdsAcceptance s) :
    SingleOperation sha256 token e s := by
  have hsound : ∀ {i request}, Accepts token e (s.presentation i) request →
      request.digest sha256 = result.requestDigest ∧
        (request.mutation → request.operationId.isSome = keyed) := by
    rintro i request ⟨spentAt, hphase, htoken, _⟩
    have hi := h.sound i
    rw [hphase] at hi
    obtain ⟨hdigest, hkeyed⟩ := hi htoken
    exact ⟨hdigest, fun hmutation => hkeyed htoken hmutation hdigest⟩
  refine ⟨?_, ?_, ?_⟩
  · intro i j request other hi hj hmutation hother
    have hkey := (hsound hi).2 hmutation
    have hkey' := (hsound hj).2 hother
    have huse : options.useAcceptance request = keyed := by
      simp [ProtectOptions.useAcceptance, hmutation, hacceptanceStore, hkey]
    have huse' : options.useAcceptance other = keyed := by
      simp [ProtectOptions.useAcceptance, hother, hacceptanceStore, hkey']
    cases keyed with
    | true =>
        obtain ⟨key, hsome⟩ := Option.isSome_iff_exists.mp hkey
        have hsame := h.oneKey i j request other hi.spends hj.spends huse huse'
        exact Or.inl ⟨key, hsome, hsame ▸ hsome⟩
    | false =>
        have hnone : request.operationId = none := by simpa using hkey
        exact Or.inr ⟨h.oneConsume i j request other hi.spends hj.spends huse huse', hnone⟩
  · intro i j request other hi hj hread hother
    refine h.oneConsume i j request other hi.spends hj.spends ?_ ?_
    · simp [ProtectOptions.useAcceptance, hread]
    · simp [ProtectOptions.useAcceptance, hother]
  · intro i j request other hi hj hcollisionFree
    exact requestPreimage_inj (hcollisionFree ((hsound hi).1.trans (hsound hj).1.symm))

end TokenInvariant

end Token

/-! ## Tokens are used for one operation -/

/-- Options with both result stores, and a run of presentations from empty
stores of which the token's are the only ones with its result id. -/
structure TokenRun {ι ρ σ τ : Type} [DecidableEq ι] (sha256 : JsString → JsString)
    (options : ProtectOptions ρ σ τ) (token : JsString) (result : HumanResult) (e : Instant)
    (events : List (ResourceEvent ι ρ)) (last : ResourceState ι ρ σ τ) : Prop where
  admitted : options.assertProtectOptions = .ok ()
  stores : ∃ replay acceptance, options.replayStore = some replay ∧ IsReplayStore σ replay ∧
    options.resultAcceptanceStore = some acceptance ∧ IsAcceptanceStore τ acceptance ∧
    ∃ now requirements, (resourceMachine sha256 options).run
      (ResourceState.initial now requirements replay.empty acceptance.empty) events = some last
  valid : options.verifyHumanResultToken token = .ok result
  expires : result.expiresAt = some e
  alone : ∀ id request, .present id request ∈ events →
    LeavesResultAlone options token result request

namespace KeyedAndKeyless

def sha256 (text : JsString) : JsString :=
  if text = requestPreimage (js "POST") (js "https://a.example/x") none then
    js "sha256:AzYdjdTC15uCsJ62j061jwLgvbgLKQOzf4Nyuuz32vU"
  else js "sha256:47DEQpj8HBSa-_TImW-5JCeuQeRkm5NMpJWZG3hSuFU"

def descriptor : HumanMethodDescriptor where
  providerId := js "world"
  methodId := js "proof-of-human"
  version := js "1"
  status := .enabled
  claim := js "one human"
  nonClaims := [js "identity"]
  assuranceLevels := []
  nativeScopeKinds := [.action]
  verificationModes := [.backend]

def requirement : HumanRequirement where
  x424Version := js "0.1"
  dependencyId := js "d"
  purpose := js "p"
  resource := ⟨js "POST", js "https://a.example/x", js "https://a.example",
    js "sha256:AzYdjdTC15uCsJ62j061jwLgvbgLKQOzf4Nyuuz32vU"⟩
  nonce := js "n"
  binding := ⟨.session, js "s"⟩
  createdAt := some 0
  expiresAt := some 1000
  accepts := [⟨js "world", js "proof-of-human", js "1", none, [.action], none, none⟩]
  providerRequestKeys := []

def result : HumanResult where
  resultId := js "r"
  dependencyId := js "d"
  purpose := js "p"
  audience := js "https://a.example"
  requestDigest := js "sha256:AzYdjdTC15uCsJ62j061jwLgvbgLKQOzf4Nyuuz32vU"
  binding := ⟨.session, js "s"⟩
  providerId := js "world"
  methodId := js "proof-of-human"
  descriptorVersion := js "1"
  assuranceLevel := none
  uniquenessScope := ⟨.action, js "a"⟩
  verificationMode := .backend
  claim := js "one human"
  nonClaims := [js "identity"]
  verifiedAt := some 1
  issuedAt := some 1
  expiresAt := some 900

def options (requireIdempotencyKey : Option Bool) :
    ProtectOptions RequirementEntries (Cells JsString Unit) (Cells JsString AcceptedOperation) where
  deploymentProfile := .devLocal
  purpose := js "p"
  audience := js "https://a.example"
  catalog key := if key = js "world:proof-of-human" then some descriptor else none
  verifyHumanResultToken token :=
    if token = js "t" then .ok result else .error ⟨js "Malformed x424 result token"⟩
  requirementStore := inMemoryRequirementStore 10000
  replayStore := some inMemoryResultReplayStore
  resultAcceptanceStore := some inMemoryResultAcceptanceStore
  requirementsInMemory := true
  replaysInMemory := true
  acceptancesInMemory := true
  publicOrigin := ⟨js "http://localhost", some (js "http:")⟩
  requireIdempotencyKey := requireIdempotencyKey

def request (idempotencyKey : Option JsString) : ProtectedRequest where
  method := js "POST"
  uri := js "https://a.example/x"
  binding := ⟨.session, js "s"⟩
  bodyDigest := none
  idempotencyKey := idempotencyKey
  humanProof := js "t"

def events (first second : Option JsString) : List (ResourceEvent Bool RequirementEntries) :=
  [.present false (request first), .lookUp false, .spend false,
    .present true (request second), .lookUp true, .spend true]

def start : ResourceState Bool RequirementEntries (Cells JsString Unit)
    (Cells JsString AcceptedOperation) :=
  .initial 10 (Table.empty.put ⟨requirement, none⟩) inMemoryResultReplayStore.empty
    inMemoryResultAcceptanceStore.empty

end KeyedAndKeyless

open KeyedAndKeyless in
/-- Without a required key, a token is accepted with a key and without one. -/
theorem result_accepted_for_two_operations :
    ∃ (sha256 : JsString → JsString) (options : ProtectOptions RequirementEntries
        (Cells JsString Unit) (Cells JsString AcceptedOperation)) (token : JsString)
      (result : HumanResult) (e : Instant)
      (events : List (ResourceEvent Bool RequirementEntries)) (last : ResourceState Bool _ _ _),
      TokenRun sha256 options token result e events last ∧
        ¬ SingleOperation sha256 token e last := by
  have hphases : ((resourceMachine sha256 (options (some false))).run start
      (events (some (js "k")) none)).map
        (fun last => (last.presentation false, last.presentation true)) =
      some (.accepted (request (some (js "k"))) 10, .accepted (request none) 10) := by
    decide +kernel
  obtain ⟨last, hrun, hlast⟩ := Option.map_eq_some_iff.mp hphases
  obtain ⟨hfirst, hsecond⟩ := Prod.mk.inj hlast
  refine ⟨sha256, options (some false), js "t", result, 900, events (some (js "k")) none, last,
    ?_, fun h => ?_⟩
  · exact
      { admitted := by decide
        stores := ⟨_, _, rfl, .inMemory, rfl, .inMemory, 10, _, hrun⟩
        valid := by decide +kernel
        expires := rfl
        alone := by simp [events, LeavesResultAlone, request] }
  · have hkey : Accepts (js "t") 900 (last.presentation false) (request (some (js "k"))) :=
      ⟨10, hfirst, rfl, by decide⟩
    have hkeyless : Accepts (js "t") 900 (last.presentation true) (request none) :=
      ⟨10, hsecond, rfl, by decide⟩
    rcases h.mutations hkeyless hkey (by decide) (by decide) with ⟨key, hnone, _⟩ | ⟨hne, _⟩
    · exact absurd hnone (by simp [request, ProtectedRequest.operationId])
    · exact absurd hne (by decide)

theorem result_accepted_for_one_operation {ι ρ σ τ : Type} [DecidableEq ι]
    {sha256 : JsString → JsString} {options : ProtectOptions ρ σ τ} {token : JsString}
    {result : HumanResult} {e : Instant} {events : List (ResourceEvent ι ρ)}
    {last : ResourceState ι ρ σ τ} (h : TokenRun sha256 options token result e events last)
    (hstore : OneStore sha256 options token result events) :
    SingleOperation sha256 token e last := by
  obtain ⟨replay, acceptance, hreplayStore, hreplay, hacceptanceStore, hacceptance, now,
    requirements, hrun⟩ := h.stores
  obtain ⟨holdsReplay, hreplay⟩ := hreplay.spendsResults
  obtain ⟨holdsAcceptance, hacceptance⟩ := hacceptance.bindsResults
  obtain ⟨keyed, hguard⟩ : ∃ keyed, ∀ event ∈ events,
      TokenInvariant.Guarded sha256 options token result keyed event := by
    rw [OneStore, ← or_assoc] at hstore
    rcases hstore with hstrict | ⟨keyed, hkeyed⟩
    · refine ⟨true, fun event hevent => ?_⟩
      cases event with
      | present id request =>
          exact ⟨h.alone id request hevent, fun _ hkey hpreview _ hmutation _ =>
            keyed_of_previewed hstrict hkey hpreview hmutation⟩
      | _ => trivial
    · refine ⟨keyed, fun event hevent => ?_⟩
      cases event with
      | present id request =>
          exact ⟨h.alone id request hevent, fun _ _ _ => hkeyed id request hevent⟩
      | _ => trivial
  have hlast := (TokenInvariant.initial hreplay hacceptance now requirements).run hreplay
    hacceptance hreplayStore hacceptanceStore h.valid h.expires hguard hrun
  exact hlast.singleOperation hacceptanceStore

open KeyedAndKeyless in
/-- One key, presented twice. -/
theorem result_accepted_for_one_operation_keyedTwice :
    ∃ last : ResourceState Bool RequirementEntries (Cells JsString Unit)
        (Cells JsString AcceptedOperation),
      Accepts (js "t") 900 (last.presentation false) (request (some (js "k"))) ∧
      Accepts (js "t") 900 (last.presentation true) (request (some (js "k"))) ∧
      SingleOperation sha256 (js "t") 900 last := by
  have hphases : ((resourceMachine sha256 (options none)).run start
      (events (some (js "k")) (some (js "k")))).map
        (fun last => (last.presentation false, last.presentation true)) =
      some (.accepted (request (some (js "k"))) 10, .accepted (request (some (js "k"))) 10) := by
    decide +kernel
  obtain ⟨last, hrun, hlast⟩ := Option.map_eq_some_iff.mp hphases
  obtain ⟨hfirst, hsecond⟩ := Prod.mk.inj hlast
  have htokenRun : TokenRun sha256 (options none) (js "t") result 900
      (events (some (js "k")) (some (js "k"))) last :=
    { admitted := by decide
      stores := ⟨_, _, rfl, .inMemory, rfl, .inMemory, 10, _, hrun⟩
      valid := by decide +kernel
      expires := rfl
      alone := by simp [events, LeavesResultAlone, request] }
  exact ⟨last, ⟨10, hfirst, rfl, by decide⟩, ⟨10, hsecond, rfl, by decide⟩,
    result_accepted_for_one_operation htokenRun (Or.inr (Or.inl (by decide)))⟩

end X424
