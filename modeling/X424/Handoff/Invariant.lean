import X424.Handoff.Service
import X424.Handoff.StoreLaws

/-!
# What every run of the handoff service keeps

Every record that a worker holds is one the store has held, an update starts
from a record that was not terminal, and the log of the records is a version
log.  From this the invariant of the three stores follows.
-/

namespace X424

open Foundation

/-! ## What a phase may hold -/

def LeaseOver (now : Instant) (record : StoredHumanHandoff) : Prop :=
  ∀ claimExpiresAt, record.pollClaimExpiresAt = some claimExpiresAt → claimExpiresAt ≤ now

section Phases

variable (service : HumanHandoffService) (strict : Bool) (now : Instant)
  (log : List StoredHumanHandoff)

structure Held (record : StoredHumanHandoff) : Prop where
  logged : record ∈ log
  readable : Readable strict record

structure HeldOpen (record : StoredHumanHandoff) : Prop extends Held strict log record where
  nonterminal : record.status.terminal = false

def TaskOk (previous next : StoredHumanHandoff) : UpdateTask → Prop
  | .expire _ handoffId _ _ => previous.handoffId = handoffId ∧ next = previous.expire
  | .reclaim => previous.status = .polling ∧ LeaseOver now previous ∧ next = previous.toPending
  | .claim => previous.status = .pending ∧ ∃ time, previous.claim time = .ok next
  | .release => previous.status = .polling ∧ next = previous.toPending
  | .complete token => previous.status = .polling ∧ next.status = .completed ∧
      service.unprotect (next.protectedCompletion.getD []) = .ok (some token)
  | .fail => previous.status = .polling ∧ ∃ code, next = previous.fail code
  | .cancel => next = previous.cancel

def UpdateTask.status : UpdateTask → HandoffStatus
  | expire _ _ _ _ => .expired
  | reclaim => .pending
  | claim => .polling
  | release => .pending
  | complete _ => .completed
  | fail => .failed
  | cancel => .cancelled

structure UpdateOk (task : UpdateTask) (previous next : StoredHumanHandoff) : Prop where
  held : HeldOpen strict log previous
  succeeds : previous.Succeeds next
  task : TaskOk service now previous next task

def FetchedOk (handoffId : JsString) : Fetched → Prop
  | .unknown => True
  | .found record => Held strict log record ∧ record.handoffId = handoffId
  | .expired record => Held strict log record ∧ record.handoffId = handoffId
  | .expiring record => HeldOpen strict log record ∧ record.handoffId = handoffId
  | .failed _ => True

structure HeldClaim (claimed : StoredHumanHandoff) : Prop extends Held strict log claimed where
  polling : claimed.status = .polling

def PhaseOk : Phase → Prop
  | .idle => True
  | .reading _ _ _ _ => True
  | .read _ handoffId _ _ fetched => FetchedOk strict log handoffId fetched
  | .updating task previous next _ => UpdateOk service strict now log task previous next
  | .updated task previous next reply =>
      UpdateOk service strict now log task previous next ∧ (reply = .ok true → next ∈ log)
  | .cancelling record => HeldOpen strict log record
  | .polling claimed => HeldClaim strict log claimed
  | .lookingUp claimed => HeldClaim strict log claimed
  | .satisfying claimed => HeldClaim strict log claimed
  | .protecting claimed _ => HeldClaim strict log claimed
  | .done _ _ _ => True

end Phases

variable {service : HumanHandoffService} {strict : Bool} {now later : Instant}
  {log log' : List StoredHumanHandoff} {record previous next claimed : StoredHumanHandoff}

theorem LeaseOver.mono (h : LeaseOver now record) (hle : now ≤ later) :
    LeaseOver later record :=
  fun e he => Int.le_trans (h e he) hle

theorem Held.mono (h : Held strict log record) (hsub : log ⊆ log') : Held strict log' record :=
  ⟨hsub h.logged, h.readable⟩

theorem HeldOpen.mono (h : HeldOpen strict log record) (hsub : log ⊆ log') :
    HeldOpen strict log' record :=
  ⟨h.toHeld.mono hsub, h.nonterminal⟩

theorem HeldClaim.mono (h : HeldClaim strict log claimed) (hsub : log ⊆ log') :
    HeldClaim strict log' claimed :=
  ⟨h.toHeld.mono hsub, h.polling⟩

theorem HeldClaim.heldOpen (h : HeldClaim strict log claimed) : HeldOpen strict log claimed :=
  ⟨h.toHeld, by rw [h.polling]; rfl⟩

theorem UpdateOk.mono {task : UpdateTask} (h : UpdateOk service strict now log task previous next)
    (hsub : log ⊆ log') (hle : now ≤ later) :
    UpdateOk service strict later log' task previous next := by
  refine ⟨h.held.mono hsub, h.succeeds, ?_⟩
  have htask := h.task
  cases task with
  | reclaim => exact ⟨htask.1, LeaseOver.mono htask.2.1 hle, htask.2.2⟩
  | expire | claim | release | complete | fail | cancel => exact htask

theorem UpdateOk.status {task : UpdateTask}
    (h : UpdateOk service strict now log task previous next) : next.status = task.status := by
  have htask := h.task
  cases task with
  | expire => exact htask.2 ▸ rfl
  | reclaim => exact htask.2.2 ▸ rfl
  | claim =>
      obtain ⟨_, time, hclaim⟩ := htask
      obtain ⟨lease, _, rfl⟩ := StoredHumanHandoff.claim_eq_ok.mp hclaim
      rfl
  | release => exact htask.2 ▸ rfl
  | complete token => exact htask.2.1
  | fail =>
      obtain ⟨_, code, rfl⟩ := htask
      rfl
  | cancel => exact (show next = previous.cancel from htask) ▸ rfl

theorem UpdateOk.opens {task : UpdateTask} (h : UpdateOk service strict now log task previous next)
    (hcompleted : next.status = .completed) :
    ∃ token, service.unprotect (next.protectedCompletion.getD []) = .ok (some token) := by
  have hstatus := h.status.symm.trans hcompleted
  cases task with
  | complete token => exact ⟨token, h.task.2.2⟩
  | expire | reclaim | claim | release | fail | cancel => exact nomatch hstatus

theorem FetchedOk.mono {handoffId : JsString} {fetched : Fetched}
    (h : FetchedOk strict log handoffId fetched) (hsub : log ⊆ log') :
    FetchedOk strict log' handoffId fetched := by
  cases fetched with
  | unknown => trivial
  | found record => exact ⟨h.1.mono hsub, h.2⟩
  | expired record => exact ⟨h.1.mono hsub, h.2⟩
  | expiring record => exact ⟨h.1.mono hsub, h.2⟩
  | failed error => trivial

theorem PhaseOk.mono {phase : Phase} (h : PhaseOk service strict now log phase)
    (hsub : log ⊆ log') (hle : now ≤ later) : PhaseOk service strict later log' phase := by
  cases phase with
  | idle | reading | done => trivial
  | read call handoffId accessTokenDigest checkedAt fetched => exact FetchedOk.mono h hsub
  | updating task previous next checkedAt => exact UpdateOk.mono h hsub hle
  | updated task previous next reply =>
      exact ⟨h.1.mono hsub hle, fun hreply => hsub (h.2 hreply)⟩
  | cancelling record => exact HeldOpen.mono h hsub
  | polling claimed => exact HeldClaim.mono h hsub
  | lookingUp claimed => exact HeldClaim.mono h hsub
  | satisfying claimed => exact HeldClaim.mono h hsub
  | protecting claimed token => exact HeldClaim.mono h hsub

/-! ## What the continuations do -/

namespace HumanHandoffService

theorem failClaimed_ok (h : HeldClaim strict log claimed) (code : JsString) :
    PhaseOk service strict now log (failClaimed claimed code now) :=
  ⟨h.heldOpen, StoredHumanHandoff.fail_succeeds code, h.polling, code, rfl⟩

theorem claimCurrent_ok (h : HeldOpen strict log record) (hstatus : record.status = .pending) :
    PhaseOk service strict now log (claimCurrent record now) := by
  unfold claimCurrent
  cases hclaim : record.claim now with
  | error error => trivial
  | ok claimed =>
      exact ⟨h, StoredHumanHandoff.claim_succeeds hclaim, hstatus, now, hclaim⟩

theorem terminalView_eq_none {unprotect : OpensCompletion}
    (h : record.terminalView unprotect = .ok none) : record.status.terminal = false := by
  unfold StoredHumanHandoff.terminalView at h
  cases hstatus : record.status with
  | pending | polling => rfl
  | completed =>
      simp only [hstatus] at h
      split at h <;> simp at h
  | failed | expired | cancelled => simp [hstatus] at h

theorem pollAuthorized_ok (h : Held strict log record) :
    PhaseOk service strict now log (service.pollAuthorized record now) := by
  unfold pollAuthorized
  cases hview : record.terminalView service.unprotect with
  | error error => trivial
  | ok view =>
      cases view with
      | some view => trivial
      | none =>
          have hopen : HeldOpen strict log record := ⟨h, terminalView_eq_none hview⟩
          simp only
          split_ifs with hpolling hlease
          · trivial
          · refine ⟨hopen, StoredHumanHandoff.toPending_succeeds, hpolling, ?_, rfl⟩
            intro e he
            simpa [he] using hlease
          · refine claimCurrent_ok hopen ?_
            have hterminal := hopen.nonterminal
            cases hstatus : record.status <;> simp_all [HandoffStatus.terminal]

theorem cancelAuthorized_ok (h : Held strict log record) :
    PhaseOk service strict now log (cancelAuthorized record) := by
  unfold cancelAuthorized
  split_ifs with hterminal
  · trivial
  · exact ⟨h, Bool.not_eq_true _ ▸ hterminal⟩

theorem authorized_ok (h : Held strict log record) (call : HandoffCall) :
    PhaseOk service strict now log (service.authorized call record now) := by
  cases call with
  | poll => exact pollAuthorized_ok h
  | cancel => exact cancelAuthorized_ok h

theorem afterRead_ok {handoffId : JsString} {fetched : Fetched}
    (h : FetchedOk strict log handoffId fetched) (call : HandoffCall)
    (accessTokenDigest : JsString) (checkedAt : Instant) :
    PhaseOk service strict now log
      (service.afterRead call handoffId accessTokenDigest checkedAt fetched now) := by
  cases fetched with
  | unknown => cases call <;> trivial
  | found record => exact authorized_ok h.1 call
  | expired record => exact authorized_ok h.1 call
  | expiring record => exact ⟨h.1, StoredHumanHandoff.advance_succeeds _, h.2, rfl⟩
  | failed error => trivial

theorem afterUpdate_ok {task : UpdateTask} {reply : Except JsError Bool}
    (h : UpdateOk service strict now log task previous next)
    (hlogged : reply = .ok true → next ∈ log) :
    PhaseOk service strict now log (service.afterUpdate task previous next reply now) := by
  have hreadable := h.held.readable.next h.succeeds
  have htask := h.task
  have hclaimed : previous.status = .polling → HeldClaim strict log previous :=
    fun hpolling => ⟨h.held.toHeld, hpolling⟩
  cases task with
  | expire call handoffId accessTokenDigest checkedAt =>
      rcases reply with error | (_ | _)
      · trivial
      · trivial
      · exact authorized_ok ⟨hlogged rfl, hreadable⟩ call
  | reclaim =>
      rcases reply with error | (_ | _)
      · trivial
      · trivial
      · have hnext : next.status = .pending := by rw [htask.2.2]; rfl
        exact claimCurrent_ok ⟨⟨hlogged rfl, hreadable⟩, by rw [hnext]; rfl⟩ hnext
  | claim =>
      rcases reply with error | (_ | _)
      · trivial
      · trivial
      · obtain ⟨_, time, hclaim⟩ := htask
        obtain ⟨lease, _, rfl⟩ := StoredHumanHandoff.claim_eq_ok.mp hclaim
        have hheld : HeldClaim strict log _ := ⟨⟨hlogged rfl, hreadable⟩, rfl⟩
        simp only [afterUpdate]
        split_ifs
        · exact hheld
        · exact failClaimed_ok hheld _
  | release =>
      rcases reply with error | updated
      · exact failClaimed_ok (hclaimed htask.1) _
      · trivial
  | complete token =>
      rcases reply with error | (_ | _)
      · exact failClaimed_ok (hclaimed htask.1) _
      · exact failClaimed_ok (hclaimed htask.1) _
      · trivial
  | fail => cases reply <;> trivial
  | cancel => cases reply <;> trivial

theorem afterProvider_ok (h : HeldClaim strict log claimed) (answer : ProviderAnswer) :
    PhaseOk service strict now log (afterProvider claimed now answer) := by
  cases answer with
  | threw => exact failClaimed_ok h _
  | pending =>
      exact ⟨h.heldOpen, StoredHumanHandoff.toPending_succeeds, h.polling, rfl⟩
  | failed code => exact failClaimed_ok h code
  | completed => exact h

theorem afterRequirement_ok (h : HeldClaim strict log claimed) (found : Option Bool) :
    PhaseOk service strict now log (afterRequirement claimed now found) := by
  rcases found with _ | (_ | _)
  · exact failClaimed_ok h _
  · exact failClaimed_ok h _
  · exact h

theorem afterProtect_ok (h : HeldClaim strict log claimed) {token : JsString}
    {completion : Option JsString} (hsealed : sealed service token completion) :
    PhaseOk service strict now log (afterProtect claimed token now completion) := by
  cases completion with
  | none => exact failClaimed_ok h _
  | some text =>
      exact ⟨h.heldOpen, StoredHumanHandoff.complete_succeeds text, h.polling, rfl,
        hsealed text rfl⟩

end HumanHandoffService

theorem PhaseOk.moves {before after : Phase} (h : PhaseOk service strict now log before)
    (hmoves : Moves service now before after) : PhaseOk service strict now log after := by
  cases hmoves with
  | call call handoffId accessTokenDigest => trivial
  | read call handoffId accessTokenDigest checkedAt fetched =>
      exact HumanHandoffService.afterRead_ok h call accessTokenDigest checkedAt
  | updated task previous next reply => exact HumanHandoffService.afterUpdate_ok h.1 h.2
  | cancel record => exact ⟨h, StoredHumanHandoff.advance_succeeds _, rfl⟩
  | provider claimed answer => exact HumanHandoffService.afterProvider_ok h answer
  | requirement claimed found => exact HumanHandoffService.afterRequirement_ok h found
  | unsatisfied claimed => exact HumanHandoffService.failClaimed_ok h _
  | protect claimed token completion hsealed =>
      exact HumanHandoffService.afterProtect_ok h hsealed

/-! ## What a step does to the store -/

section Steps

variable {ι σ : Type} (service : HumanHandoffService) (store : HandoffStore σ) (strict : Bool)

def HandoffState.stored (s : HandoffState ι σ) (handoffId : JsString) :
    Option StoredHumanHandoff :=
  store.stored s.now s.store handoffId

/-- A step leaves the store alone, creates a record or replaces one that was not terminal. -/
inductive StoreChange (s t : HandoffState ι σ) : Prop
  | kept (now_le : s.now ≤ t.now) (store_eq : t.store = s.store) (log_eq : t.log = s.log)
      (issued : s.issued ⊆ t.issued) (updated_eq : t.updated = s.updated)
  | created (record : StoredHumanHandoff) (now_eq : t.now = s.now)
      (fresh : record.handoffId ∉ s.issued) (version : record.version = 1)
      (status : record.status = .pending)
      (unmarked : store.marker s.now s.store record.dependencyId = none)
      (wrote : Wrote store s.now s.store t.store record) (log_eq : t.log = record :: s.log)
      (issued_eq : t.issued = record.handoffId :: s.issued) (updated_eq : t.updated = s.updated)
  | swapped (previous next : StoredHumanHandoff) (now_eq : t.now = s.now)
      (held : HeldOpen strict s.log previous) (succeeds : previous.Succeeds next)
      (stored : s.stored store previous.handoffId = some previous)
      (opens : next.status = .completed →
        ∃ token, service.unprotect (next.protectedCompletion.getD []) = .ok (some token))
      (wrote : Wrote store s.now s.store t.store next) (log_eq : t.log = next :: s.log)
      (issued_eq : t.issued = s.issued)
      (updated_eq : t.updated = s.updated ∨
        t.updated = (previous.handoffId, previous.version) :: s.updated)
      (cause : next.status = .expired ∨ ∃ i task checkedAt,
        s.phase i = .updating task previous next checkedAt ∧
        t.phase i = .updated task previous next (.ok true))

structure HandoffInvariant (valid : Instant → σ → Prop) (s : HandoffState ι σ) : Prop where
  valid : valid s.now s.store
  versions : VersionLog handoffKind (s.stored store) s.log
  issued : ∀ record ∈ s.log, record.handoffId ∈ s.issued
  readable : ∀ record ∈ s.log, 1 < record.version → Readable strict record
  opens : ∀ record ∈ s.log, record.status = .completed →
    ∃ token, service.unprotect (record.protectedCompletion.getD []) = .ok (some token)
  updated : (s.updated.map fun u => (u.1, u.2 + 1)).Sublist
    (s.log.map fun record => (record.handoffId, record.version))
  phases : ∀ i, PhaseOk service strict s.now s.log (s.phase i)

variable {service store strict} {valid : Instant → σ → Prop} {s t : HandoffState ι σ}

namespace StoreChange

theorem now_mono (h : StoreChange service store strict s t) : s.now ≤ t.now := by
  cases h with
  | kept now_le => exact now_le
  | created _ now_eq => exact Int.le_of_eq now_eq.symm
  | swapped _ _ now_eq => exact Int.le_of_eq now_eq.symm

theorem log_mono (h : StoreChange service store strict s t) : s.log ⊆ t.log := by
  cases h with
  | kept _ _ log_eq =>
      rw [log_eq]
      exact List.Subset.refl _
  | created _ _ _ _ _ _ _ log_eq => exact log_eq ▸ List.subset_cons_self _ _
  | swapped _ _ _ _ _ _ _ _ log_eq => exact log_eq ▸ List.subset_cons_self _ _

end StoreChange

theorem HandoffState.stores (hnow : t.now = s.now)
    (h : Wrote store s.now s.store t.store record) :
    Stores handoffKind (s.stored store) (t.stored store) record where
  others handoffId hid := by
    simp only [HandoffState.stored, hnow]
    exact h.stores.others handoffId hid
  same hcurrent := by
    simp only [HandoffState.stored, hnow] at hcurrent
    exact h.stores.same hcurrent

namespace HandoffInvariant

theorem initial (hstore : KeepsHandoffs store strict valid) (now : Instant) :
    HandoffInvariant service store strict valid (HandoffState.initial store now :
      HandoffState ι σ) where
  valid := hstore.valid_empty now
  versions := by
    have hempty : (HandoffState.initial store now : HandoffState ι σ).stored store =
        fun _ => none := funext fun handoffId => hstore.stored_empty now handoffId
    rw [hempty]
    exact VersionLog.empty
  issued _ h := nomatch h
  readable _ h := nomatch h
  opens _ h := nomatch h
  updated := List.Sublist.slnil
  phases _ := trivial

theorem follow (hstore : KeepsHandoffs store strict valid)
    (h : HandoffInvariant service store strict valid s)
    (hchange : StoreChange service store strict s t) (hvalid : valid t.now t.store)
    (hphases : ∀ i, PhaseOk service strict t.now t.log (t.phase i)) :
    HandoffInvariant service store strict valid t := by
  cases hchange with
  | kept now_le store_eq log_eq issued updated_eq =>
      refine ⟨hvalid, ?_, fun record hlog => issued (h.issued record (log_eq ▸ hlog)), ?_, ?_, ?_,
        hphases⟩
      · rw [log_eq]
        refine h.versions.vanish fun {handoffId record} hstored => ?_
        rw [HandoffState.stored, store_eq] at hstored
        exact hstore.stored_later now_le hstored
      · exact log_eq ▸ h.readable
      · exact log_eq ▸ h.opens
      · rw [log_eq, updated_eq]
        exact h.updated
  | created record now_eq fresh version status unmarked wrote log_eq issued_eq updated_eq =>
      refine ⟨hvalid, ?_, ?_, ?_, ?_, ?_, hphases⟩
      · rw [log_eq]
        refine h.versions.start (fun other hother hid => fresh ?_)
          (HandoffState.stores now_eq wrote)
        exact (show other.handoffId = record.handoffId from hid) ▸ h.issued other hother
      · rw [log_eq, issued_eq]
        intro other hother
        rcases List.mem_cons.mp hother with rfl | hother
        · exact List.mem_cons_self
        · exact List.mem_cons_of_mem _ (h.issued other hother)
      · rw [log_eq]
        intro other hother hlater
        rcases List.mem_cons.mp hother with rfl | hother
        · omega
        · exact h.readable other hother hlater
      · rw [log_eq]
        intro other hother hcompleted
        rcases List.mem_cons.mp hother with rfl | hother
        · exact nomatch status.symm.trans hcompleted
        · exact h.opens other hother hcompleted
      · rw [log_eq, updated_eq]
        exact h.updated.cons _
  | swapped previous next now_eq held succeeds stored opens wrote log_eq issued_eq
    updated_eq cause =>
      have hid := StoredHumanHandoff.handoffId_eq succeeds.identity
      refine ⟨hvalid, ?_, ?_, ?_, ?_, ?_, hphases⟩
      · rw [log_eq]
        have hcurrent : s.stored store next.handoffId = some previous := hid ▸ stored
        refine h.versions.swap hcurrent succeeds.version ?_ succeeds.identity
          (HandoffState.stores now_eq wrote)
        simp [handoffKind, held.nonterminal]
      · rw [log_eq, issued_eq]
        intro other hother
        rcases List.mem_cons.mp hother with rfl | hother
        · exact hid ▸ h.issued previous held.logged
        · exact h.issued other hother
      · rw [log_eq]
        intro other hother hlater
        rcases List.mem_cons.mp hother with rfl | hother
        · exact held.readable.next succeeds
        · exact h.readable other hother hlater
      · rw [log_eq]
        intro other hother hcompleted
        rcases List.mem_cons.mp hother with rfl | hother
        · exact opens hcompleted
        · exact h.opens other hother hcompleted
      · rw [log_eq]
        rcases updated_eq with heq | heq
        · rw [heq]
          exact h.updated.cons _
        · rw [heq, List.map_cons, List.map_cons, hid, succeeds.version]
          exact h.updated.cons_cons _

theorem create (hstore : KeepsHandoffs store strict valid)
    (h : HandoffInvariant service store strict valid s) {record : StoredHumanHandoff}
    (hfresh : record.handoffId ∉ s.issued) (hversion : record.version = 1)
    (hstatus : record.status = .pending) (checkedAt : Instant) :
    StoreChange service store strict s (s.create store record checkedAt) ∧
      HandoffInvariant service store strict valid (s.create store record checkedAt) := by
  have hopen : record.status.terminal = false := by
    rw [hstatus]
    rfl
  obtain ⟨hvalid, hwrites⟩ := hstore.create checkedAt h.valid hopen
  have hchange : StoreChange service store strict s (s.create store record checkedAt) := by
    rcases hwrites with ⟨hok, ⟨_, hmarker⟩, hwrote⟩ | ⟨hfailed, hsame⟩
    · exact .created record rfl hfresh hversion hstatus hmarker hwrote
        (by simp [HandoffState.create, hok]) rfl rfl
    · exact .kept (Int.le_refl _) hsame (by simp [HandoffState.create, hfailed])
        (List.subset_cons_self _ _) rfl
  refine ⟨hchange, h.follow hstore hchange hvalid fun i => ?_⟩
  exact (h.phases i).mono hchange.log_mono hchange.now_mono

variable [DecidableEq ι]

theorem setPhase (h : HandoffInvariant service store strict valid s) {i : ι} {phase : Phase}
    (hphase : PhaseOk service strict s.now s.log phase) :
    HandoffInvariant service store strict valid (s.setPhase i phase) := by
  refine ⟨h.valid, h.versions, h.issued, h.readable, h.opens, h.updated, fun j => ?_⟩
  by_cases hj : j = i
  · subst hj
    simpa only [HandoffState.setPhase, Function.update_self] using hphase
  · simpa only [HandoffState.setPhase, Function.update_of_ne hj] using h.phases j

theorem setPhase_change (i : ι) (phase : Phase) :
    StoreChange service store strict s (s.setPhase i phase) :=
  .kept (Int.le_refl _) rfl rfl (List.Subset.refl _) rfl

theorem others (h : HandoffInvariant service store strict valid s)
    (hchange : StoreChange service store strict s t) {i : ι} {phase : Phase}
    (hphases : t.phase = Function.update s.phase i phase)
    (hphase : PhaseOk service strict t.now t.log phase) (j : ι) :
    PhaseOk service strict t.now t.log (t.phase j) := by
  rw [hphases]
  by_cases hj : j = i
  · subst hj
    rwa [Function.update_self]
  · rw [Function.update_of_ne hj]
    exact (h.phases j).mono hchange.log_mono hchange.now_mono

theorem read (hstore : KeepsHandoffs store strict valid)
    (h : HandoffInvariant service store strict valid s) (i : ι) (call : HandoffCall)
    (handoffId accessTokenDigest : JsString) (checkedAt : Instant) :
    StoreChange service store strict s
        (s.read store i call handoffId accessTokenDigest checkedAt) ∧
      HandoffInvariant service store strict valid
        (s.read store i call handoffId accessTokenDigest checkedAt) := by
  obtain ⟨hvalid, hfetch⟩ := hstore.fetch handoffId accessTokenDigest checkedAt h.valid
  have hheld : ∀ {record}, s.stored store handoffId = some record → Readable strict record →
      Held strict s.log record ∧ record.handoffId = handoffId := by
    intro record hstored hreadable
    obtain ⟨hlogged, hid⟩ := h.versions.logged hstored
    exact ⟨⟨hlogged, hreadable⟩, hid⟩
  obtain ⟨fetched, after, hreply⟩ :
      ∃ fetched after, store.fetch handoffId accessTokenDigest checkedAt s.now s.store =
        (fetched, after) := ⟨_, _, rfl⟩
  have ht : s.read store i call handoffId accessTokenDigest checkedAt =
      HandoffState.setPhase { s with store := after, log := fetched.written ++ s.log } i
        (.read call handoffId accessTokenDigest checkedAt fetched) := by
    simp only [HandoffState.read, hreply]
  rw [ht]
  rw [hreply] at hvalid hfetch
  have hkept : ∀ {t : HandoffState ι σ}, t.store = s.store → t.log = s.log → t.now = s.now →
      t.issued = s.issued → t.updated = s.updated → StoreChange service store strict s t :=
    fun hs hl hn hi hu => .kept (Int.le_of_eq hn.symm) hs hl (hi ▸ List.Subset.refl _) hu
  have hboth : ∀ {t : HandoffState ι σ}, StoreChange service store strict s t →
      valid t.now t.store →
      t.phase = Function.update s.phase i
        (.read call handoffId accessTokenDigest checkedAt fetched) →
      FetchedOk strict t.log handoffId fetched →
      StoreChange service store strict s t ∧ HandoffInvariant service store strict valid t :=
    fun hchange hvalid hphases hok =>
      ⟨hchange, h.follow hstore hchange hvalid (h.others hchange hphases hok)⟩
  cases fetched with
  | unknown => exact hboth (hkept hfetch.1 rfl rfl rfl rfl) hvalid rfl trivial
  | found record =>
      obtain ⟨hsame, hstored, hreadable, _⟩ := hfetch
      exact hboth (hkept hsame rfl rfl rfl rfl) hvalid rfl (hheld hstored hreadable)
  | expired record =>
      obtain ⟨hwrote, previous, rfl, hstored, hreadable, hopen, _⟩ := hfetch
      obtain ⟨hheld, hid⟩ := hheld hstored hreadable
      have hsucceeds : previous.Succeeds previous.expire := ⟨rfl, rfl⟩
      refine hboth (.swapped previous previous.expire rfl ⟨hheld, hopen⟩ hsucceeds
        (hid ▸ hstored) (fun hcompleted => nomatch hcompleted) hwrote rfl rfl (Or.inl rfl)
        (Or.inl rfl))
        hvalid rfl ⟨⟨List.mem_cons_self, hreadable.next hsucceeds⟩, hid⟩
  | expiring record =>
      obtain ⟨hsame, hstored, hreadable, hopen, _⟩ := hfetch
      obtain ⟨hheld, hid⟩ := hheld hstored hreadable
      exact hboth (hkept hsame rfl rfl rfl rfl) hvalid rfl ⟨⟨hheld, hopen⟩, hid⟩
  | failed error => exact hboth (hkept hfetch.1 rfl rfl rfl rfl) hvalid rfl trivial

theorem update (hstore : KeepsHandoffs store strict valid)
    (h : HandoffInvariant service store strict valid s) (i : ι) {task : UpdateTask}
    {previous next : StoredHumanHandoff}
    {checkedAt : Instant} (hphase : s.phase i = .updating task previous next checkedAt) :
    StoreChange service store strict s (s.update store i task previous next checkedAt) ∧
      HandoffInvariant service store strict valid
        (s.update store i task previous next checkedAt) := by
  have hok := h.phases i
  rw [hphase] at hok
  obtain ⟨hvalid, hwrites⟩ := hstore.update checkedAt h.valid hok.held.nonterminal hok.succeeds
    fun current hstored hversion => h.versions.eq_stored hok.held.logged hstored hversion
  rcases hwrites with ⟨htrue, hstored, hwrote⟩ | ⟨hfailed, hsame⟩
  · have ht := s.update_of_true store i task htrue
    have hchange : StoreChange service store strict s
        (s.update store i task previous next checkedAt) := by
      rw [ht]
      exact .swapped previous next rfl hok.held hok.succeeds hstored hok.opens hwrote rfl rfl
        (Or.inr rfl) (Or.inr ⟨i, task, checkedAt, hphase, Function.update_self _ _ _⟩)
    have hvalid' : valid (s.update store i task previous next checkedAt).now
        (s.update store i task previous next checkedAt).store := by
      rw [ht]
      exact hvalid
    refine ⟨hchange, h.follow hstore hchange hvalid' ?_⟩
    rw [ht] at hchange ⊢
    exact h.others hchange rfl ⟨hok.mono hchange.log_mono hchange.now_mono,
      fun _ => List.mem_cons_self⟩
  · rw [s.update_of_not_true store i task hfailed, hsame]
    refine ⟨setPhase_change i _, h.setPhase ⟨hok, fun hreply => absurd hreply hfailed⟩⟩

theorem step (hstore : KeepsHandoffs store strict valid)
    (h : HandoffInvariant service store strict valid s)
    (hstep : HandoffStep service store s t) :
    StoreChange service store strict s t ∧ HandoffInvariant service store strict valid t := by
  cases hstep with
  | tick time hle =>
      have hchange : StoreChange service store strict s { s with now := time } :=
        .kept hle rfl rfl (List.Subset.refl _) rfl
      exact ⟨hchange, h.follow hstore hchange (hstore.valid_later hle h.valid)
        fun i => (h.phases i).mono (List.Subset.refl _) hle⟩
  | refused => exact ⟨.kept (Int.le_refl _) rfl rfl (List.Subset.refl _) rfl, h⟩
  | create found input started handoffId accessTokenDigest expiresAt checkedAt hfresh =>
      exact h.create hstore hfresh rfl rfl checkedAt
  | move i phase hmoves => exact ⟨setPhase_change i phase, h.setPhase ((h.phases i).moves hmoves)⟩
  | read i call handoffId accessTokenDigest checkedAt hphase =>
      exact h.read hstore i call handoffId accessTokenDigest checkedAt
  | update i task previous next checkedAt hphase => exact h.update hstore i hphase
  | satisfied i claimed token hphase =>
      have hok := h.phases i
      rw [hphase] at hok
      have hinv := @HandoffInvariant.setPhase _ _ _ _ _ _ _ _ h i (.protecting claimed token) hok
      exact ⟨.kept (Int.le_refl _) rfl rfl (List.Subset.refl _) rfl,
        ⟨hinv.valid, hinv.versions, hinv.issued, hinv.readable, hinv.opens, hinv.updated,
          hinv.phases⟩⟩

theorem run (hstore : KeepsHandoffs store strict valid)
    (h : HandoffInvariant service store strict valid s) {events : List (HandoffEvent ι)}
    (hrun : (handoffMachine service store).run s events = some t) :
    HandoffInvariant service store strict valid t ∧ s.log ⊆ t.log ∧ s.now ≤ t.now := by
  refine (handoffMachine service store).invariant_run
    (I := fun u => HandoffInvariant service store strict valid u ∧ s.log ⊆ u.log ∧ s.now ≤ u.now)
    (fun u event v hu hstep => ?_) ⟨h, List.Subset.refl _, Int.le_refl _⟩ hrun
  obtain ⟨hinv, hlog, hnow⟩ := hu
  obtain ⟨hchange, hnext⟩ := hinv.step hstore (handoffStep_cases hstep)
  exact ⟨hnext, fun _ hmem => hchange.log_mono (hlog hmem), Int.le_trans hnow hchange.now_mono⟩

end HandoffInvariant

/-! ## The invariant of the stores -/

structure StoreConsistent (store : HandoffStore σ) (s : HandoffState ι σ) : Prop where
  oneActive : ∀ {handoffId other record found}, s.stored store handoffId = some record →
    s.stored store other = some found → record.status.terminal = false →
    found.status.terminal = false → record.dependencyId = found.dependencyId →
    handoffId = other
  marker : ∀ {dependencyId handoffId}, store.marker s.now s.store dependencyId = some handoffId ↔
    ∃ record, s.stored store handoffId = some record ∧ record.dependencyId = dependencyId ∧
      record.status.terminal = false
  updates : s.updated.Nodup

/-- What one step may do to a stored record, and what a successful update has done. -/
structure StepConsistent (store : HandoffStore σ) (s t : HandoffState ι σ) : Prop where
  stored : ∀ {handoffId record}, s.stored store handoffId = some record →
    t.stored store handoffId = some record ∨
    (t.stored store handoffId = none ∧ record.expiresAt ≤ t.now) ∨
    (record.status.terminal = false ∧ ∃ next, t.stored store handoffId = some next ∧
      next.version = record.version + 1)
  update : ∀ {i task previous next checkedAt},
    s.phase i = .updating task previous next checkedAt →
    t.phase i = .updated task previous next (.ok true) →
    s.stored store previous.handoffId = some previous ∧ next.version = previous.version + 1 ∧
    (t.stored store previous.handoffId = some next ∨
      (t.stored store previous.handoffId = none ∧ next.expiresAt ≤ t.now)) ∧
    t.updated = (previous.handoffId, previous.version) :: s.updated

/-- A record found later is the one found before, with the same identity. -/
def HistoryKept (store : HandoffStore σ) (s t : HandoffState ι σ) : Prop :=
  ∀ {handoffId record found}, s.stored store handoffId = some record →
    t.stored store handoffId = some found →
    found.handoffId = record.handoffId ∧ found.accessTokenDigest = record.accessTokenDigest ∧
    found.dependencyId = record.dependencyId ∧ found.methodId = record.methodId ∧
    found.expiresAt = record.expiresAt ∧ record.version ≤ found.version ∧
    (record.status.terminal = true → found = record)

theorem HandoffInvariant.storeConsistent (hstore : KeepsHandoffs store strict valid)
    (h : HandoffInvariant service store strict valid s) : StoreConsistent store s where
  oneActive hrecord hfound hopen hopen' hdependency := by
    have hmarker := (hstore.marker_iff h.valid).mpr ⟨_, hrecord, rfl, hopen⟩
    have hmarker' := (hstore.marker_iff h.valid).mpr ⟨_, hfound, hdependency.symm, hopen'⟩
    exact Option.some.inj (hmarker.symm.trans hmarker')
  marker := hstore.marker_iff h.valid
  updates := by
    have hnodup := h.updated.nodup h.versions.once
    exact List.Nodup.of_map _ hnodup

theorem HandoffInvariant.historyKept
    (h : HandoffInvariant service store strict valid s)
    (ht : HandoffInvariant service store strict valid t) (hlog : s.log ⊆ t.log) :
    HistoryKept store s t := by
  intro handoffId record found hrecord hfound
  obtain ⟨hlogged, hid⟩ := h.versions.logged hrecord
  obtain ⟨hlogged', hid'⟩ := ht.versions.logged hfound
  have hkey : handoffKind.key record = handoffId := hid
  have hidentity : found.identity = record.identity :=
    ht.versions.lineage (hlog hlogged) hlogged' (hid'.trans hid.symm)
  refine ⟨StoredHumanHandoff.handoffId_eq hidentity,
    StoredHumanHandoff.accessTokenDigest_eq hidentity,
    StoredHumanHandoff.dependencyId_eq hidentity, StoredHumanHandoff.methodId_eq hidentity,
    StoredHumanHandoff.expiresAt_eq hidentity, ?_, fun hterminal => ?_⟩
  · exact ht.versions.newest (hlog hlogged) (hkey ▸ hfound)
  · exact ht.versions.stored_of_final (hlog hlogged) hterminal (hkey ▸ hfound)

theorem StoreChange.stored (hstore : KeepsHandoffs store strict valid)
    (h : HandoffInvariant service store strict valid s)
    (hchange : StoreChange service store strict s t) {handoffId : JsString}
    (hrecord : s.stored store handoffId = some record) :
    t.stored store handoffId = some record ∨
    (t.stored store handoffId = none ∧ record.expiresAt ≤ t.now) ∨
    (record.status.terminal = false ∧ ∃ next, t.stored store handoffId = some next ∧
      next.version = record.version + 1) := by
  obtain ⟨hlogged, hid⟩ := h.versions.logged hrecord
  cases hchange with
  | kept now_le store_eq log_eq issued updated_eq =>
      rcases Int.lt_or_le t.now record.expiresAt with hunexpired | hexpired
      · have hkept := hstore.stored_unexpired h.valid hrecord now_le hunexpired
        exact Or.inl (by rw [HandoffState.stored, store_eq, hkept])
      · cases hfound : t.stored store handoffId with
        | none => exact Or.inr (Or.inl ⟨rfl, hexpired⟩)
        | some found =>
            rw [HandoffState.stored, store_eq] at hfound
            have hbefore := hstore.stored_later now_le hfound
            exact Or.inl (hbefore.symm.trans hrecord)
  | created new now_eq fresh version status unmarked wrote log_eq issued_eq updated_eq =>
      have hne : handoffId ≠ new.handoffId := by
        intro heq
        exact fresh (heq ▸ hid ▸ h.issued record hlogged)
      exact Or.inl (by rw [HandoffState.stored, now_eq, wrote.others handoffId hne]; exact hrecord)
  | swapped previous next now_eq held succeeds stored opens wrote log_eq issued_eq
    updated_eq cause =>
      have hnext := StoredHumanHandoff.handoffId_eq succeeds.identity
      by_cases heq : handoffId = next.handoffId
      · rw [heq, hnext, stored, Option.some.injEq] at hrecord
        subst hrecord
        rw [HandoffState.stored, now_eq, heq]
        rcases wrote.same with hsome | ⟨hnone, hexpired⟩
        · exact Or.inr (Or.inr ⟨held.nonterminal, next, hsome, succeeds.version⟩)
        · rw [StoredHumanHandoff.expiresAt_eq succeeds.identity] at hexpired
          exact Or.inr (Or.inl ⟨hnone, hexpired⟩)
      · exact Or.inl
          (by rw [HandoffState.stored, now_eq, wrote.others handoffId heq]; exact hrecord)

variable [DecidableEq ι]

theorem HandoffInvariant.stepConsistent (hstore : KeepsHandoffs store strict valid)
    (h : HandoffInvariant service store strict valid s)
    (hstep : HandoffStep service store s t) : StepConsistent store s t where
  stored := (h.step hstore hstep).1.stored hstore h
  update := by
    intro i task previous next checkedAt hbefore hafter
    have hother : ∀ {j phase}, t.phase = Function.update s.phase j phase → j = i := by
      intro j phase hphase
      by_contra hj
      rw [hphase, Function.update_of_ne (Ne.symm hj), hbefore] at hafter
      cases hafter
    cases hstep with
    | tick | refused | create => exact nomatch hbefore.symm.trans hafter
    | move j phase hmoves =>
        obtain rfl := hother rfl
        rw [hbefore] at hmoves
        cases hmoves
    | read j call handoffId accessTokenDigest readAt hphase =>
        obtain rfl := hother rfl
        exact nomatch hbefore.symm.trans hphase
    | satisfied j claimed token hphase =>
        obtain rfl := hother rfl
        exact nomatch hbefore.symm.trans hphase
    | update j task' previous' next' checkedAt' hphase =>
        obtain rfl := hother (s.update_phase store j _ _ _ _)
        obtain ⟨rfl, rfl, rfl, rfl⟩ := Phase.updating.inj (hbefore.symm.trans hphase)
        have hok := h.phases j
        rw [hphase] at hok
        rw [s.update_phase, Function.update_self] at hafter
        have htrue := (Phase.updated.inj hafter).2.2.2
        obtain ⟨_, hwrites⟩ := hstore.update checkedAt h.valid hok.held.nonterminal hok.succeeds
          fun current hstored hversion => h.versions.eq_stored hok.held.logged hstored hversion
        obtain ⟨_, hstored, hwrote⟩ := hwrites.resolve_right fun hfailed => hfailed.1 htrue
        refine ⟨hstored, hok.succeeds.version, ?_, ?_⟩
        · have hsame := hwrote.same
          rw [StoredHumanHandoff.handoffId_eq hok.succeeds.identity] at hsame
          rw [s.update_of_true store j task htrue]
          exact hsame
        · rw [s.update_of_true store j task htrue]

structure ConsistentRuns (ι : Type) [DecidableEq ι] {σ : Type} (service : HumanHandoffService)
    (store : HandoffStore σ) : Prop where
  states : ∀ {now events} {s : HandoffState ι σ},
    (handoffMachine service store).run (.initial store now) events = some s →
    StoreConsistent store s
  steps : ∀ {now events} {s t : HandoffState ι σ} {event},
    (handoffMachine service store).run (.initial store now) events = some s →
    handoffStep service store s event = some t → StepConsistent store s t
  histories : ∀ {now events later} {s t : HandoffState ι σ},
    (handoffMachine service store).run (.initial store now) events = some s →
    (handoffMachine service store).run s later = some t → HistoryKept store s t

theorem consistentRuns_of_keeps (hstore : KeepsHandoffs store strict valid) :
    ConsistentRuns ι service store where
  states hrun := ((HandoffInvariant.initial hstore _).run hstore hrun).1.storeConsistent hstore
  steps hrun hstep :=
    ((HandoffInvariant.initial hstore _).run hstore hrun).1.stepConsistent hstore
      (handoffStep_cases hstep)
  histories hrun hlater := by
    obtain ⟨hs, _⟩ := (HandoffInvariant.initial hstore _).run hstore hrun
    obtain ⟨ht, hlog, _⟩ := hs.run hstore hlater
    exact hs.historyKept ht hlog

end Steps

structure HandoffStoresConsistent (ι : Type) [DecidableEq ι] (service : HumanHandoffService) :
    Prop where
  inMemory : ConsistentRuns ι service inMemoryHandoffStore
  redis : ∀ keyPrefix, ConsistentRuns ι service (redisHandoffStore keyPrefix)
  postgres : ConsistentRuns ι service postgresHandoffStore

theorem handoffStores_consistent (ι : Type) [DecidableEq ι] (service : HumanHandoffService) :
    HandoffStoresConsistent ι service where
  inMemory := consistentRuns_of_keeps inMemory_keepsHandoffs
  redis keyPrefix := consistentRuns_of_keeps (redis_keepsHandoffs keyPrefix)
  postgres := consistentRuns_of_keeps postgres_keepsHandoffs

end X424
