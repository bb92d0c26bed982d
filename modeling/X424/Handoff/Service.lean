import X424.Foundation.Machine
import X424.Handoff.Store

/-!
# The handoff service

`HumanHandoffService` as a machine.  A call of `poll` or `cancel` is run by a
worker; between two `await`s it waits for the answer of a store, of the
provider, of the requirement store, of `satisfy` or of the state protector, and
the event that brings the answer is free to come at any time.  A store acts in
one step (`execute`) and the worker goes on in a later one (`resume`), at which
it reads the clock.
-/

namespace X424

open Foundation

structure HumanHandoffService where
  adapters : JsString → Option (List JsString)
  unprotect : OpensCompletion

/-! ## Starting a handoff -/

structure StartHumanHandoffInput where
  dependencyId : JsString
  nonce : JsString
  providerId : JsString
  methodId : JsString
  deriving DecidableEq, Repr

/-- The answer of `startHandoff`, with the provider session already protected. -/
structure StartedProviderHandoff where
  presentation : HumanHandoffPresentation
  protectedState : JsString
  expiresAt : IsoTimestamp
  pollAfterMs : Option JsDouble
  deriving DecidableEq, Repr

/-- The record that `start` creates. -/
def startRecord (requirement : HumanRequirement) (input : StartHumanHandoffInput)
    (started : StartedProviderHandoff) (handoffId accessTokenDigest : JsString)
    (expiresAt : Instant) : StoredHumanHandoff where
  handoffId := handoffId
  dependencyId := requirement.dependencyId
  providerId := input.providerId
  methodId := input.methodId
  accessTokenDigest := accessTokenDigest
  status := .pending
  pollClaimExpiresAt := none
  presentation := started.presentation
  protectedState := started.protectedState
  protectedCompletion := none
  failureCode := none
  pollAfterMs := (started.pollAfterMs.getD (.finite 1000)).clamp 500 10000
  expiresAt := expiresAt
  version := 1

/-- `start` up to the `create`, from the requirement that was found. -/
def HumanHandoffService.start (service : HumanHandoffService)
    (requirement : Option HumanRequirement) (input : StartHumanHandoffInput)
    (started : StartedProviderHandoff) (handoffId accessTokenDigest : JsString)
    (now : Instant) : Except JsError StoredHumanHandoff :=
  match requirement.filter fun requirement => requirement.nonce == input.nonce with
  | none => .error ⟨js "Unknown, expired, or mismatched human dependency"⟩
  | some requirement =>
      if !requirement.accepts.any fun candidate =>
          candidate.providerId == input.providerId && candidate.methodId == input.methodId then
        .error ⟨js "Human method is not accepted"⟩
      else if !(service.adapters input.providerId).any fun methodIds =>
          methodIds.contains input.methodId then
        .error ⟨js "Human handoff method is unavailable"⟩
      else
        match requirement.expiresAt, started.expiresAt with
        | some requirementExpiry, some providerExpiry =>
            let expiresAt := min requirementExpiry providerExpiry
            if expiresAt ≤ now then .error ⟨js "Provider handoff already expired"⟩
            else
              .ok (startRecord requirement input started handoffId accessTokenDigest expiresAt)
        | _, _ => .error ⟨js "Invalid time value"⟩

/-! ## Workers -/

inductive HandoffCall where
  | poll
  | cancel
  deriving DecidableEq, Repr

/-- What a call comes to: a view, the answer of `cancel`, or an error. -/
inductive HandoffOutcome where
  | view (view : HumanHandoffView)
  | cancelled (done : Bool)
  | threw (error : JsError)
  deriving DecidableEq, Repr

inductive UpdateTask where
  /-- The update inside `getAuthorized`, with the arguments to read again. -/
  | expire (call : HandoffCall) (handoffId accessTokenDigest : JsString) (checkedAt : Instant)
  | reclaim
  | claim
  | release
  | complete (token : JsString)
  | fail
  | cancel
  deriving DecidableEq, Repr

inductive Phase where
  | idle
  | reading (call : HandoffCall) (handoffId accessTokenDigest : JsString) (checkedAt : Instant)
  | read (call : HandoffCall) (handoffId accessTokenDigest : JsString) (checkedAt : Instant)
      (fetched : Fetched)
  | updating (task : UpdateTask) (previous next : StoredHumanHandoff) (checkedAt : Instant)
  | updated (task : UpdateTask) (previous next : StoredHumanHandoff)
      (reply : Except JsError Bool)
  | cancelling (record : StoredHumanHandoff)
  /-- `pollHandoff` is under way. -/
  | polling (claimed : StoredHumanHandoff)
  | lookingUp (claimed : StoredHumanHandoff)
  | satisfying (claimed : StoredHumanHandoff)
  | protecting (claimed : StoredHumanHandoff) (token : JsString)
  | done (call : HandoffCall) (handoffId : JsString) (outcome : HandoffOutcome)

inductive ProviderAnswer where
  | threw
  | pending
  | failed (code : JsString)
  | completed
  deriving DecidableEq, Repr

namespace HumanHandoffService

variable (service : HumanHandoffService)

/-- `#failClaimed`. -/
def failClaimed (claimed : StoredHumanHandoff) (code : JsString) (now : Instant) : Phase :=
  .updating .fail claimed (claimed.fail code) now

def claimCurrent (current : StoredHumanHandoff) (now : Instant) : Phase :=
  match current.claim now with
  | .error error => .done .poll current.handoffId (.threw error)
  | .ok claimed => .updating .claim current claimed now

/-- `poll` from the answer of `getAuthorized` on. -/
def pollAuthorized (current : StoredHumanHandoff) (now : Instant) : Phase :=
  match current.terminalView service.unprotect with
  | .error error => .done .poll current.handoffId (.threw error)
  | .ok (some view) => .done .poll current.handoffId (.view view)
  | .ok none =>
      if current.status = .polling then
        if current.pollClaimExpiresAt.any fun claimExpiresAt => now < claimExpiresAt then
          .done .poll current.handoffId (.view current.pendingView)
        else .updating .reclaim current current.toPending now
      else claimCurrent current now

/-- `cancel` from the answer of `getAuthorized` on. -/
def cancelAuthorized (current : StoredHumanHandoff) : Phase :=
  if current.status.terminal then
    .done .cancel current.handoffId (.cancelled (current.status == .cancelled))
  else .cancelling current

def authorized (call : HandoffCall) (current : StoredHumanHandoff) (now : Instant) : Phase :=
  match call with
  | .poll => service.pollAuthorized current now
  | .cancel => cancelAuthorized current

def unknownCapability (call : HandoffCall) (handoffId : JsString) : Phase :=
  match call with
  | .poll => .done .poll handoffId (.threw ⟨js "Unknown handoff capability"⟩)
  | .cancel => .done .cancel handoffId (.cancelled false)

def afterRead (call : HandoffCall) (handoffId accessTokenDigest : JsString)
    (checkedAt : Instant) (fetched : Fetched) (now : Instant) : Phase :=
  match fetched with
  | .unknown => unknownCapability call handoffId
  | .found record => service.authorized call record now
  | .expired record => service.authorized call record now
  | .expiring record =>
      .updating (.expire call handoffId accessTokenDigest checkedAt) record record.expire now
  | .failed error => .done call handoffId (.threw error)

def afterUpdate (task : UpdateTask) (previous next : StoredHumanHandoff)
    (reply : Except JsError Bool) (now : Instant) : Phase :=
  match task, reply with
  | .expire call _ _ _, .ok true => service.authorized call next now
  | .expire call handoffId accessTokenDigest checkedAt, .ok false =>
      .reading call handoffId accessTokenDigest checkedAt
  | .expire call handoffId _ _, .error error => .done call handoffId (.threw error)
  | .reclaim, .ok true => claimCurrent next now
  | .claim, .ok true =>
      if (service.adapters next.providerId).isSome then .polling next
      else failClaimed next (js "HANDOFF_ADAPTER_UNAVAILABLE") now
  | .reclaim, .ok false => .done .poll previous.handoffId (.view previous.pendingView)
  | .claim, .ok false => .done .poll previous.handoffId (.view previous.pendingView)
  | .release, .ok _ => .done .poll previous.handoffId (.view next.pendingView)
  | .release, .error _ => failClaimed previous (js "HANDOFF_POLL_FAILED") now
  | .complete token, .ok true =>
      .done .poll previous.handoffId (.view (.completed previous.handoffId token next.expiresAt))
  | .complete _, .ok false => failClaimed previous (js "HANDOFF_POLL_FAILED") now
  | .complete _, .error _ => failClaimed previous (js "HANDOFF_POLL_FAILED") now
  -- the reply is not looked at
  | .fail, .ok _ =>
      .done .poll previous.handoffId
        (.view (.failed next.handoffId (next.failureCode.getD []) next.expiresAt))
  | .cancel, .ok updated => .done .cancel previous.handoffId (.cancelled updated)
  | .reclaim, .error error => .done .poll previous.handoffId (.threw error)
  | .claim, .error error => .done .poll previous.handoffId (.threw error)
  | .fail, .error error => .done .poll previous.handoffId (.threw error)
  | .cancel, .error error => .done .cancel previous.handoffId (.threw error)

def afterProvider (claimed : StoredHumanHandoff) (now : Instant) : ProviderAnswer → Phase
  | .threw => failClaimed claimed (js "HANDOFF_POLL_FAILED") now
  | .pending => .updating .release claimed claimed.toPending now
  | .failed code => failClaimed claimed code now
  | .completed => .lookingUp claimed

/-- The requirement was found or not; `none` is an error. -/
def afterRequirement (claimed : StoredHumanHandoff) (now : Instant) : Option Bool → Phase
  | none => failClaimed claimed (js "HANDOFF_POLL_FAILED") now
  | some false => failClaimed claimed (js "DEPENDENCY_NOT_FOUND") now
  | some true => .satisfying claimed

def afterSatisfy (claimed : StoredHumanHandoff) (now : Instant) : Option JsString → Phase
  | none => failClaimed claimed (js "HANDOFF_POLL_FAILED") now
  | some token => .protecting claimed token

def afterProtect (claimed : StoredHumanHandoff) (token : JsString) (now : Instant) :
    Option JsString → Phase
  | none => failClaimed claimed (js "HANDOFF_POLL_FAILED") now
  | some completion => .updating (.complete token) claimed (claimed.complete completion) now

end HumanHandoffService

/-! ## The machine -/

structure HandoffState (ι σ : Type) where
  now : Instant
  store : σ
  phase : ι → Phase
  /-- The handoff ids drawn so far; `randomUUID` draws fresh ones. -/
  issued : List JsString
  log : List StoredHumanHandoff
  updated : List (JsString × Nat)
  claims : List (ι × StoredHumanHandoff × Instant)
  /-- The claims under which `satisfy` returned a token. -/
  tokens : List (StoredHumanHandoff × JsString)

inductive HandoffEvent (ι : Type) where
  | tick (time : Instant)
  | start (requirement : Option HumanRequirement) (input : StartHumanHandoffInput)
      (started : StartedProviderHandoff) (handoffId accessTokenDigest : JsString)
      (checkedAt sentAt : Instant)
  | call (i : ι) (call : HandoffCall) (handoffId accessTokenDigest : JsString)
  | execute (i : ι)
  | resume (i : ι)
  | provider (i : ι) (answer : ProviderAnswer)
  | requirement (i : ι) (found : Option Bool)
  | satisfy (i : ι) (token : Option JsString)
  | protect (i : ι) (completion : Option JsString)

def HandoffEvent.worker {ι : Type} : HandoffEvent ι → Option ι
  | tick _ => none
  | start _ _ _ _ _ _ _ => none
  | call i _ _ _ => some i
  | execute i => some i
  | resume i => some i
  | provider i _ => some i
  | requirement i _ => some i
  | satisfy i _ => some i
  | protect i _ => some i

def Fetched.written : Fetched → List StoredHumanHandoff
  | expired record => [record]
  | unknown | found _ | expiring _ | failed _ => []

section Machine

variable {ι σ : Type} [DecidableEq ι] (service : HumanHandoffService) (store : HandoffStore σ)

namespace HandoffState

def initial (now : Instant) : HandoffState ι σ :=
  ⟨now, store.empty, fun _ => .idle, [], [], [], [], []⟩

variable (s : HandoffState ι σ)

def setPhase (i : ι) (phase : Phase) : HandoffState ι σ :=
  { s with phase := Function.update s.phase i phase }

def create (record : StoredHumanHandoff) (checkedAt : Instant) : HandoffState ι σ :=
  let reply := store.create record checkedAt s.now s.store
  { s with
    store := reply.2
    issued := record.handoffId :: s.issued
    log := if reply.1 = .ok true then record :: s.log else s.log }

def read (i : ι) (call : HandoffCall) (handoffId accessTokenDigest : JsString)
    (checkedAt : Instant) : HandoffState ι σ :=
  let reply := store.fetch handoffId accessTokenDigest checkedAt s.now s.store
  setPhase { s with store := reply.2, log := reply.1.written ++ s.log } i
    (.read call handoffId accessTokenDigest checkedAt reply.1)

def update (i : ι) (task : UpdateTask) (previous next : StoredHumanHandoff)
    (checkedAt : Instant) : HandoffState ι σ :=
  let reply := store.update previous next checkedAt s.now s.store
  let s := setPhase { s with store := reply.2 } i (.updated task previous next reply.1)
  if reply.1 = .ok true then
    { s with
      log := next :: s.log
      updated := (previous.handoffId, previous.version) :: s.updated
      claims := if task = .claim then (i, next, s.now) :: s.claims else s.claims }
  else s

@[simp] theorem setPhase_self (i : ι) (phase : Phase) : (s.setPhase i phase).phase i = phase := by
  simp [setPhase]

theorem setPhase_of_ne {i j : ι} (phase : Phase) (h : j ≠ i) :
    (s.setPhase i phase).phase j = s.phase j := by
  simp [setPhase, Function.update_of_ne h]

variable {s} {previous next : StoredHumanHandoff} {checkedAt : Instant}

theorem update_of_true (s : HandoffState ι σ) (i : ι) (task : UpdateTask)
    (h : (store.update previous next checkedAt s.now s.store).1 = .ok true) :
    s.update store i task previous next checkedAt =
      { setPhase { s with store := (store.update previous next checkedAt s.now s.store).2 } i
          (.updated task previous next (.ok true)) with
        log := next :: s.log
        updated := (previous.handoffId, previous.version) :: s.updated
        claims := if task = .claim then (i, next, s.now) :: s.claims else s.claims } := by
  simp only [update, h, if_true]
  rfl

theorem update_of_not_true (s : HandoffState ι σ) (i : ι) (task : UpdateTask)
    (h : (store.update previous next checkedAt s.now s.store).1 ≠ .ok true) :
    s.update store i task previous next checkedAt =
      setPhase { s with store := (store.update previous next checkedAt s.now s.store).2 } i
        (.updated task previous next (store.update previous next checkedAt s.now s.store).1) := by
  simp only [update, h, if_false]

theorem update_phase (s : HandoffState ι σ) (i : ι) (task : UpdateTask)
    (previous next : StoredHumanHandoff) (checkedAt : Instant) :
    (s.update store i task previous next checkedAt).phase =
      Function.update s.phase i (.updated task previous next
        (store.update previous next checkedAt s.now s.store).1) := by
  by_cases h : (store.update previous next checkedAt s.now s.store).1 = .ok true
  · rw [update_of_true store s i task h, h]
    rfl
  · rw [update_of_not_true store s i task h]
    rfl

@[simp] theorem update_tokens (s : HandoffState ι σ) (i : ι) (task : UpdateTask)
    (previous next : StoredHumanHandoff) (checkedAt : Instant) :
    (s.update store i task previous next checkedAt).tokens = s.tokens := by
  by_cases h : (store.update previous next checkedAt s.now s.store).1 = .ok true
  · rw [update_of_true store s i task h]
    rfl
  · rw [update_of_not_true store s i task h]
    rfl

end HandoffState

/-- `protect` seals a completion that `unprotect` opens. -/
abbrev sealed (token : JsString) (completion : Option JsString) : Prop :=
  ∀ text ∈ completion, service.unprotect text = .ok (some token)

def handoffStep (s : HandoffState ι σ) : HandoffEvent ι → Option (HandoffState ι σ)
  | .tick time => if s.now ≤ time then some { s with now := time } else none
  | .start requirement input started handoffId accessTokenDigest checkedAt sentAt =>
      if handoffId ∉ s.issued ∧ checkedAt ≤ sentAt ∧ sentAt ≤ s.now then
        match service.start requirement input started handoffId accessTokenDigest checkedAt with
        | .error _ => some s
        | .ok record => some (s.create store record sentAt)
      else none
  | .call i call handoffId accessTokenDigest =>
      match s.phase i with
      | .idle => some (s.setPhase i (.reading call handoffId accessTokenDigest s.now))
      | _ => none
  | .execute i =>
      match s.phase i with
      | .reading call handoffId accessTokenDigest checkedAt =>
          some (s.read store i call handoffId accessTokenDigest checkedAt)
      | .updating task previous next checkedAt =>
          some (s.update store i task previous next checkedAt)
      | _ => none
  | .resume i =>
      match s.phase i with
      | .read call handoffId accessTokenDigest checkedAt fetched =>
          some (s.setPhase i
            (service.afterRead call handoffId accessTokenDigest checkedAt fetched s.now))
      | .updated task previous next reply =>
          some (s.setPhase i (service.afterUpdate task previous next reply s.now))
      -- the outcome of the adapter's `cancelHandoff` does not matter
      | .cancelling record => some (s.setPhase i (.updating .cancel record record.cancel s.now))
      | _ => none
  | .provider i answer =>
      match s.phase i with
      | .polling claimed =>
          some (s.setPhase i (HumanHandoffService.afterProvider claimed s.now answer))
      | _ => none
  | .requirement i found =>
      match s.phase i with
      | .lookingUp claimed =>
          some (s.setPhase i (HumanHandoffService.afterRequirement claimed s.now found))
      | _ => none
  | .satisfy i token =>
      match s.phase i with
      | .satisfying claimed =>
          some { s.setPhase i (HumanHandoffService.afterSatisfy claimed s.now token) with
            tokens := (token.map fun token => (claimed, token)).toList ++ s.tokens }
      | _ => none
  | .protect i completion =>
      match s.phase i with
      | .protecting claimed token =>
          if sealed service token completion then
            some (s.setPhase i (HumanHandoffService.afterProtect claimed token s.now completion))
          else none
      | _ => none

def handoffMachine : Machine (HandoffState ι σ) (HandoffEvent ι) :=
  ⟨handoffStep service store⟩

/-! ## What a step can be -/

inductive Moves (now : Instant) : Phase → Phase → Prop
  | call (call : HandoffCall) (handoffId accessTokenDigest : JsString) :
      Moves now .idle (.reading call handoffId accessTokenDigest now)
  | read (call : HandoffCall) (handoffId accessTokenDigest : JsString) (checkedAt : Instant)
      (fetched : Fetched) :
      Moves now (.read call handoffId accessTokenDigest checkedAt fetched)
        (service.afterRead call handoffId accessTokenDigest checkedAt fetched now)
  | updated (task : UpdateTask) (previous next : StoredHumanHandoff)
      (reply : Except JsError Bool) :
      Moves now (.updated task previous next reply)
        (service.afterUpdate task previous next reply now)
  | cancel (record : StoredHumanHandoff) :
      Moves now (.cancelling record) (.updating .cancel record record.cancel now)
  | provider (claimed : StoredHumanHandoff) (answer : ProviderAnswer) :
      Moves now (.polling claimed) (HumanHandoffService.afterProvider claimed now answer)
  | requirement (claimed : StoredHumanHandoff) (found : Option Bool) :
      Moves now (.lookingUp claimed) (HumanHandoffService.afterRequirement claimed now found)
  | unsatisfied (claimed : StoredHumanHandoff) :
      Moves now (.satisfying claimed) (HumanHandoffService.afterSatisfy claimed now none)
  | protect (claimed : StoredHumanHandoff) (token : JsString) (completion : Option JsString)
      (hsealed : sealed service token completion) :
      Moves now (.protecting claimed token)
        (HumanHandoffService.afterProtect claimed token now completion)

inductive HandoffStep (s : HandoffState ι σ) : HandoffState ι σ → Prop
  | tick (time : Instant) (hle : s.now ≤ time) : HandoffStep s { s with now := time }
  | refused : HandoffStep s s
  | create (found : HumanRequirement) (input : StartHumanHandoffInput)
      (started : StartedProviderHandoff) (handoffId accessTokenDigest : JsString)
      (expiresAt checkedAt : Instant) (hfresh : handoffId ∉ s.issued) :
      HandoffStep s (s.create store
        (startRecord found input started handoffId accessTokenDigest expiresAt) checkedAt)
  | move (i : ι) (phase : Phase) (hmoves : Moves service s.now (s.phase i) phase) :
      HandoffStep s (s.setPhase i phase)
  | read (i : ι) (call : HandoffCall) (handoffId accessTokenDigest : JsString)
      (checkedAt : Instant)
      (hphase : s.phase i = .reading call handoffId accessTokenDigest checkedAt) :
      HandoffStep s (s.read store i call handoffId accessTokenDigest checkedAt)
  | update (i : ι) (task : UpdateTask) (previous next : StoredHumanHandoff) (checkedAt : Instant)
      (hphase : s.phase i = .updating task previous next checkedAt) :
      HandoffStep s (s.update store i task previous next checkedAt)
  | satisfied (i : ι) (claimed : StoredHumanHandoff) (token : JsString)
      (hphase : s.phase i = .satisfying claimed) :
      HandoffStep s { s.setPhase i (.protecting claimed token) with
        tokens := (claimed, token) :: s.tokens }

inductive EventStep (s : HandoffState ι σ) : HandoffEvent ι → HandoffState ι σ → Prop
  | tick (time : Instant) (hle : s.now ≤ time) : EventStep s (.tick time) { s with now := time }
  | refused (requirement : Option HumanRequirement) (input : StartHumanHandoffInput)
      (started : StartedProviderHandoff) (handoffId accessTokenDigest : JsString)
      (checkedAt sentAt : Instant) :
      EventStep s (.start requirement input started handoffId accessTokenDigest checkedAt sentAt) s
  | create {requirement : Option HumanRequirement} {input : StartHumanHandoffInput}
      {started : StartedProviderHandoff} {handoffId accessTokenDigest : JsString}
      {checkedAt : Instant} {record : StoredHumanHandoff} (sentAt : Instant)
      (hfresh : handoffId ∉ s.issued)
      (hstart : service.start requirement input started handoffId accessTokenDigest checkedAt =
        .ok record) :
      EventStep s (.start requirement input started handoffId accessTokenDigest checkedAt sentAt)
        (s.create store record sentAt)
  | move {event : HandoffEvent ι} {i : ι} (phase : Phase) (hworker : event.worker = some i)
      (hmoves : Moves service s.now (s.phase i) phase) : EventStep s event (s.setPhase i phase)
  | read (i : ι) (call : HandoffCall) (handoffId accessTokenDigest : JsString)
      (checkedAt : Instant)
      (hphase : s.phase i = .reading call handoffId accessTokenDigest checkedAt) :
      EventStep s (.execute i) (s.read store i call handoffId accessTokenDigest checkedAt)
  | update (i : ι) (task : UpdateTask) (previous next : StoredHumanHandoff) (checkedAt : Instant)
      (hphase : s.phase i = .updating task previous next checkedAt) :
      EventStep s (.execute i) (s.update store i task previous next checkedAt)
  | satisfied (i : ι) (claimed : StoredHumanHandoff) (token : JsString)
      (hphase : s.phase i = .satisfying claimed) :
      EventStep s (.satisfy i (some token)) { s.setPhase i (.protecting claimed token) with
        tokens := (claimed, token) :: s.tokens }

variable {service store} {s t : HandoffState ι σ}

theorem start_eq_ok {now : Instant} {requirement : Option HumanRequirement}
    {input : StartHumanHandoffInput} {started : StartedProviderHandoff}
    {handoffId accessTokenDigest : JsString} {record : StoredHumanHandoff}
    (h : service.start requirement input started handoffId accessTokenDigest now = .ok record) :
    ∃ found requirementExpiry providerExpiry, requirement = some found ∧
      found.expiresAt = some requirementExpiry ∧ started.expiresAt = some providerExpiry ∧
      now < min requirementExpiry providerExpiry ∧
      record = startRecord found input started handoffId accessTokenDigest
        (min requirementExpiry providerExpiry) := by
  unfold HumanHandoffService.start at h
  cases hfound : requirement.filter fun requirement => requirement.nonce == input.nonce with
  | none => simp [hfound] at h
  | some found =>
      simp only [hfound] at h
      split_ifs at h
      split at h
      · next hrequirement hprovider =>
        split_ifs at h with hexpired
        exact ⟨found, _, _, (Option.filter_eq_some_iff.mp hfound).1, hrequirement, hprovider,
          Int.not_le.mp hexpired, (Except.ok.inj h).symm⟩
      · cases h

theorem handoffStep_events {event : HandoffEvent ι}
    (h : handoffStep service store s event = some t) : EventStep service store s event t := by
  have hmove : ∀ {i before phase}, event.worker = some i → s.phase i = before →
      Moves service s.now before phase → EventStep service store s event (s.setPhase i phase) := by
    rintro i _ phase hworker rfl hmoves
    exact .move phase hworker hmoves
  cases event with
  | tick time =>
      simp only [handoffStep, Option.ite_none_right_eq_some, Option.some.injEq] at h
      obtain ⟨hle, rfl⟩ := h
      exact .tick time hle
  | start requirement input started handoffId accessTokenDigest checkedAt sentAt =>
      simp only [handoffStep, Option.ite_none_right_eq_some] at h
      obtain ⟨⟨hfresh, _, _⟩, h⟩ := h
      cases hstart : service.start requirement input started handoffId accessTokenDigest
          checkedAt with
      | error error =>
          rw [hstart] at h
          cases h
          exact .refused _ _ _ _ _ _ _
      | ok record =>
          rw [hstart] at h
          cases h
          exact .create sentAt hfresh hstart
  | call i call handoffId accessTokenDigest =>
      simp only [handoffStep] at h
      split at h
      · next hphase =>
        cases h
        exact hmove rfl hphase (.call call handoffId accessTokenDigest)
      · cases h
  | execute i =>
      simp only [handoffStep] at h
      split at h
      · next hphase =>
        cases h
        exact .read i _ _ _ _ hphase
      · next hphase =>
        cases h
        exact .update i _ _ _ _ hphase
      · cases h
  | resume i =>
      simp only [handoffStep] at h
      split at h
      · next hphase =>
        cases h
        exact hmove rfl hphase (.read _ _ _ _ _)
      · next hphase =>
        cases h
        exact hmove rfl hphase (.updated _ _ _ _)
      · next hphase =>
        cases h
        exact hmove rfl hphase (.cancel _)
      · cases h
  | provider i answer =>
      simp only [handoffStep] at h
      split at h
      · next hphase =>
        cases h
        exact hmove rfl hphase (.provider _ answer)
      · cases h
  | requirement i found =>
      simp only [handoffStep] at h
      split at h
      · next hphase =>
        cases h
        exact hmove rfl hphase (.requirement _ found)
      · cases h
  | satisfy i token =>
      simp only [handoffStep] at h
      split at h
      · next hphase =>
        cases h
        cases token with
        | none => exact hmove rfl hphase (.unsatisfied _)
        | some token => exact .satisfied i _ token hphase
      · cases h
  | protect i completion =>
      simp only [handoffStep] at h
      split at h
      · next hphase =>
        simp only [Option.ite_none_right_eq_some, Option.some.injEq] at h
        obtain ⟨hsealed, rfl⟩ := h
        exact hmove rfl hphase (.protect _ _ completion hsealed)
      · cases h

theorem handoffStep_cases {event : HandoffEvent ι}
    (h : handoffStep service store s event = some t) : HandoffStep service store s t := by
  cases handoffStep_events h with
  | tick time hle => exact .tick time hle
  | refused => exact .refused
  | create sentAt hfresh hstart =>
      obtain ⟨found, _, _, _, _, _, _, rfl⟩ := start_eq_ok hstart
      exact .create found _ _ _ _ _ sentAt hfresh
  | move phase hworker hmoves => exact .move _ phase hmoves
  | read i call handoffId accessTokenDigest checkedAt hphase =>
      exact .read i call handoffId accessTokenDigest checkedAt hphase
  | update i task previous next checkedAt hphase =>
      exact .update i task previous next checkedAt hphase
  | satisfied i claimed token hphase => exact .satisfied i claimed token hphase

/-- Only its own `execute` ends the update of a worker. -/
theorem handoffStep_execute {event : HandoffEvent ι} {i : ι} {task : UpdateTask}
    {previous next : StoredHumanHandoff} {checkedAt : Instant}
    (h : handoffStep service store s event = some t)
    (hphase : s.phase i = .updating task previous next checkedAt)
    (hmoved : t.phase i ≠ s.phase i) : event = .execute i := by
  have hother : ∀ {j phase} {u : HandoffState ι σ}, t = u →
      u.phase = Function.update s.phase j phase → j = i := by
    rintro j phase _ rfl hupdate
    by_contra hj
    exact hmoved (by rw [hupdate, Function.update_of_ne (Ne.symm hj)])
  cases event with
  | tick time =>
      simp only [handoffStep, Option.ite_none_right_eq_some, Option.some.injEq] at h
      obtain ⟨_, rfl⟩ := h
      exact absurd rfl hmoved
  | start requirement input started handoffId accessTokenDigest startedAt sentAt =>
      simp only [handoffStep, Option.ite_none_right_eq_some] at h
      obtain ⟨_, h⟩ := h
      split at h <;> cases h <;> exact absurd rfl hmoved
  | execute j =>
      simp only [handoffStep] at h
      split at h
      · cases h
        rw [hother rfl rfl]
      · cases h
        rw [hother rfl (s.update_phase store j _ _ _ _)]
      · cases h
  | call j | resume j | provider j | requirement j | satisfy j =>
      simp only [handoffStep] at h
      by_cases hj : j = i
      · simp [hj, hphase] at h
      · split at h
        all_goals
          cases h
          try exact absurd (hother rfl rfl) hj
  | protect j =>
      simp only [handoffStep] at h
      by_cases hj : j = i
      · simp [hj, hphase] at h
      · split at h
        · simp only [Option.ite_none_right_eq_some, Option.some.injEq] at h
          obtain ⟨_, rfl⟩ := h
          exact absurd (hother rfl rfl) hj
        · cases h

end Machine

end X424
