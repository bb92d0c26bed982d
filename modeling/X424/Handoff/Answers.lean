import X424.Handoff.Invariant

/-!
# Terminal answers

An answer that ends a handoff is backed by a final record of the log, and a
poll that starts later and finds the record reads that one.  The answer of
`#failClaimed` is the exception: it is given whether or not its update won.
-/

namespace X424

open Foundation

/-! ## Reports -/

inductive TerminalReport where
  | completed (token : JsString)
  | failed (code : JsString)
  | expired
  | cancelled
  deriving DecidableEq, Repr

def HumanHandoffView.report : HumanHandoffView → Option TerminalReport
  | pending _ _ _ => none
  | completed _ humanProof _ => some (.completed humanProof)
  | failed _ code _ => some (.failed code)
  | expired _ _ => some .expired
  | cancelled _ _ => some .cancelled

def HandoffOutcome.report : HandoffOutcome → Option TerminalReport
  | view answer => answer.report
  | cancelled done => if done then some .cancelled else none
  | threw _ => none

def StoredHumanHandoff.report (unprotect : OpensCompletion) (record : StoredHumanHandoff) :
    Option TerminalReport :=
  (record.terminalView unprotect).toOption.bind fun view => view.bind HumanHandoffView.report

def Phase.reported : Phase → Option (JsString × TerminalReport)
  | done _ handoffId outcome => outcome.report.map fun report => (handoffId, report)
  | updated .fail previous next (.ok _) =>
      some (previous.handoffId, .failed (next.failureCode.getD []))
  | _ => none

structure Ends (service : HumanHandoffService) (strict : Bool) (log : List StoredHumanHandoff)
    (handoffId : JsString) (report : TerminalReport) (record : StoredHumanHandoff) : Prop
    extends Held strict log record where
  named : record.handoffId = handoffId
  terminal : record.status.terminal = true
  reports : record.report service.unprotect = some report

section Moves

variable {service : HumanHandoffService} {strict : Bool} {now : Instant}
  {log : List StoredHumanHandoff} {record previous next : StoredHumanHandoff}
  {handoffId : JsString} {report : TerminalReport}

namespace StoredHumanHandoff

variable {unprotect : OpensCompletion}

theorem terminal_of_report (h : record.report unprotect = some report) :
    record.status.terminal = true := by
  unfold StoredHumanHandoff.report StoredHumanHandoff.terminalView at h
  cases hstatus : record.status with
  | pending | polling => simp [hstatus, Except.toOption] at h
  | completed | failed | expired | cancelled => rfl

theorem report_of_terminalView {view : HumanHandoffView}
    (h : record.terminalView unprotect = .ok (some view)) :
    record.report unprotect = view.report := by
  simp [StoredHumanHandoff.report, h, Except.toOption]

theorem report_of_cancelled (h : record.status = .cancelled) :
    record.report unprotect = some .cancelled := by
  simp [StoredHumanHandoff.report, terminalView, h, Except.toOption, HumanHandoffView.report]

theorem report_of_failed {code : JsString} (h : record.status = .failed)
    (hcode : record.failureCode = some code) :
    record.report unprotect = some (.failed code) := by
  simp [StoredHumanHandoff.report, terminalView, h, hcode, Except.toOption,
    HumanHandoffView.report]

theorem report_of_completed {token : JsString} (h : record.status = .completed)
    (hopens : unprotect (record.protectedCompletion.getD []) = .ok (some token)) :
    record.report unprotect = some (.completed token) := by
  simp [StoredHumanHandoff.report, terminalView, h, hopens, Except.toOption,
    HumanHandoffView.report]

end StoredHumanHandoff

namespace HumanHandoffService

theorem claimCurrent_reported : (claimCurrent record now).reported = none := by
  unfold claimCurrent
  cases record.claim now <;> rfl

theorem authorized_reported (h : Held strict log record) (call : HandoffCall)
    (hreported : (service.authorized call record now).reported = some (handoffId, report)) :
    Ends service strict log handoffId report record := by
  have hends : record.report service.unprotect = some report → record.handoffId = handoffId →
      Ends service strict log handoffId report record :=
    fun hreport hid => ⟨h, hid, StoredHumanHandoff.terminal_of_report hreport, hreport⟩
  cases call with
  | poll =>
      simp only [authorized, pollAuthorized] at hreported
      split at hreported
      · exact nomatch hreported
      · next view hview =>
        simp only [Phase.reported, HandoffOutcome.report, Option.map_eq_some_iff,
          Prod.mk.injEq] at hreported
        obtain ⟨_, hreport, hid, rfl⟩ := hreported
        exact hends ((StoredHumanHandoff.report_of_terminalView hview).trans hreport) hid
      · split_ifs at hreported
        · exact nomatch hreported
        · exact nomatch hreported
        · exact nomatch claimCurrent_reported.symm.trans hreported
  | cancel =>
      simp only [authorized, cancelAuthorized] at hreported
      split_ifs at hreported
      · simp only [Phase.reported, HandoffOutcome.report, beq_iff_eq, Option.map_eq_some_iff,
          Option.ite_none_right_eq_some, Option.some.injEq, Prod.mk.injEq] at hreported
        obtain ⟨_, ⟨hcancelled, rfl⟩, hid, rfl⟩ := hreported
        exact hends (StoredHumanHandoff.report_of_cancelled hcancelled) hid
      · exact nomatch hreported

end HumanHandoffService

open HumanHandoffService

theorem afterUpdate_reported {task : UpdateTask} {reply : Except JsError Bool}
    (h : UpdateOk service strict now log task previous next)
    (hlogged : reply = .ok true → next ∈ log)
    (hreported : (service.afterUpdate task previous next reply now).reported =
      some (handoffId, report)) :
    (Phase.updated task previous next reply).reported = some (handoffId, report) ∨
      Ends service strict log handoffId report next := by
  have hreadable := h.held.readable.next h.succeeds
  have hstatus := h.status
  have hid := StoredHumanHandoff.handoffId_eq h.succeeds.identity
  cases task with
  | expire call readId accessTokenDigest checkedAt =>
      rcases reply with error | (_ | _)
      · cases hreported
      · cases hreported
      · exact Or.inr (authorized_reported ⟨hlogged rfl, hreadable⟩ call hreported)
  | reclaim =>
      rcases reply with error | (_ | _)
      · cases hreported
      · cases hreported
      · cases claimCurrent_reported.symm.trans hreported
  | claim =>
      rcases reply with error | (_ | _)
      · cases hreported
      · cases hreported
      · simp only [afterUpdate] at hreported
        split_ifs at hreported <;> cases hreported
  | release => cases reply <;> cases hreported
  | complete token =>
      rcases reply with error | (_ | _)
      · cases hreported
      · cases hreported
      · simp only [afterUpdate, Phase.reported, HandoffOutcome.report, HumanHandoffView.report,
          Option.map_some, Option.some.injEq, Prod.mk.injEq] at hreported
        obtain ⟨rfl, rfl⟩ := hreported
        exact Or.inr ⟨⟨hlogged rfl, hreadable⟩, hid, by rw [hstatus]; rfl,
          StoredHumanHandoff.report_of_completed hstatus h.task.2.2⟩
  | fail =>
      rcases reply with error | updated
      · cases hreported
      · exact Or.inl hreported
  | cancel =>
      rcases reply with error | (_ | _)
      · cases hreported
      · cases hreported
      · simp only [afterUpdate, Phase.reported, HandoffOutcome.report, if_true, Option.map_some,
          Option.some.injEq, Prod.mk.injEq] at hreported
        obtain ⟨rfl, rfl⟩ := hreported
        exact Or.inr ⟨⟨hlogged rfl, hreadable⟩, hid, by rw [hstatus]; rfl,
          StoredHumanHandoff.report_of_cancelled hstatus⟩

theorem Moves.reported {before after : Phase} (h : Moves service now before after)
    (hok : PhaseOk service strict now log before)
    (hreported : after.reported = some (handoffId, report)) :
    before.reported = some (handoffId, report) ∨
      ∃ record, Ends service strict log handoffId report record := by
  cases h with
  | call | cancel | unsatisfied => exact nomatch hreported
  | read call readId accessTokenDigest checkedAt fetched =>
      cases fetched with
      | unknown => cases call <;> exact nomatch hreported
      | found record => exact Or.inr ⟨record, authorized_reported hok.1 call hreported⟩
      | expired record => exact Or.inr ⟨record, authorized_reported hok.1 call hreported⟩
      | expiring record => exact nomatch hreported
      | failed error => exact nomatch hreported
  | updated task previous next reply =>
      exact (afterUpdate_reported hok.1 hok.2 hreported).imp_right fun hends => ⟨next, hends⟩
  | provider claimed answer => cases answer <;> exact nomatch hreported
  | requirement claimed found => rcases found with _ | (_ | _) <;> exact nomatch hreported
  | protect claimed token completion => cases completion <;> exact nomatch hreported

end Moves

/-! ## What a later call may come to -/

section Later

variable (service : HumanHandoffService) (handoffId : JsString) (report : TerminalReport)

/-- A phase of a call that started when the handoff had ended as reported. -/
def Phase.Agrees : Phase → Prop
  | idle => True
  | reading _ _ _ _ => True
  | read _ readId _ _ fetched => readId = handoffId → fetched = .unknown ∨
      ∃ record, fetched = .found record ∧ record.report service.unprotect = some report
  | updating _ previous _ _ => previous.handoffId ≠ handoffId
  | updated _ previous _ _ => previous.handoffId ≠ handoffId
  | cancelling record => record.handoffId ≠ handoffId
  | polling claimed => claimed.handoffId ≠ handoffId
  | lookingUp claimed => claimed.handoffId ≠ handoffId
  | satisfying claimed => claimed.handoffId ≠ handoffId
  | protecting claimed _ => claimed.handoffId ≠ handoffId
  | done call doneId outcome => call = .poll → doneId = handoffId →
      outcome = .threw ⟨js "Unknown handoff capability"⟩ ∨ outcome.report = some report

variable {service handoffId report} {strict : Bool} {now : Instant}
  {log : List StoredHumanHandoff} {record previous next claimed : StoredHumanHandoff}

namespace HumanHandoffService

theorem claimCurrent_agrees (hne : record.handoffId ≠ handoffId) :
    (claimCurrent record now).Agrees service handoffId report := by
  unfold claimCurrent
  cases record.claim now with
  | error error => exact fun _ hid => absurd hid hne
  | ok claimed => exact hne

theorem authorized_agrees_of_ne (hne : record.handoffId ≠ handoffId) (call : HandoffCall) :
    (service.authorized call record now).Agrees service handoffId report := by
  cases call with
  | poll =>
      simp only [authorized, pollAuthorized]
      split
      · exact fun _ hid => absurd hid hne
      · exact fun _ hid => absurd hid hne
      · split_ifs
        · exact fun _ hid => absurd hid hne
        · exact hne
        · exact claimCurrent_agrees hne
  | cancel =>
      simp only [authorized, cancelAuthorized]
      split_ifs
      · exact fun _ hid => absurd hid hne
      · exact hne

theorem authorized_agrees (hreport : record.report service.unprotect = some report)
    (call : HandoffCall) :
    (service.authorized call record now).Agrees service handoffId report := by
  cases call with
  | poll =>
      simp only [authorized, pollAuthorized]
      cases hview : record.terminalView service.unprotect with
      | error error => simp [StoredHumanHandoff.report, hview, Except.toOption] at hreport
      | ok view =>
          cases view with
          | none => simp [StoredHumanHandoff.report, hview, Except.toOption] at hreport
          | some view =>
              refine fun _ _ => Or.inr ?_
              exact (StoredHumanHandoff.report_of_terminalView hview).symm.trans hreport
  | cancel =>
      have hterminal := StoredHumanHandoff.terminal_of_report hreport
      simp only [authorized, cancelAuthorized, hterminal, if_true]
      exact fun hcall => nomatch hcall

theorem afterRead_agrees {readId : JsString} {fetched : Fetched} (call : HandoffCall)
    (accessTokenDigest : JsString) (checkedAt : Instant)
    (hok : FetchedOk strict log readId fetched)
    (h : (Phase.read call readId accessTokenDigest checkedAt fetched).Agrees service handoffId
      report) :
    (service.afterRead call readId accessTokenDigest checkedAt fetched now).Agrees service
      handoffId report := by
  by_cases hid : readId = handoffId
  · rcases h hid with rfl | ⟨record, rfl, hreport⟩
    · cases call with
      | poll => exact fun _ _ => Or.inl rfl
      | cancel => exact fun hcall => nomatch hcall
    · exact authorized_agrees hreport call
  · have hne : ∀ {record : StoredHumanHandoff}, record.handoffId = readId →
        record.handoffId ≠ handoffId :=
      fun hrecord heq => hid (hrecord.symm.trans heq)
    cases fetched with
    | unknown =>
        cases call with
        | poll => exact fun _ heq => absurd heq hid
        | cancel => exact fun hcall => nomatch hcall
    | found record => exact authorized_agrees_of_ne (hne hok.2) call
    | expired record => exact authorized_agrees_of_ne (hne hok.2) call
    | expiring record => exact hne hok.2
    | failed error => exact fun _ heq => absurd heq hid

theorem afterUpdate_agrees {task : UpdateTask} {reply : Except JsError Bool}
    (hok : UpdateOk service strict now log task previous next)
    (hne : previous.handoffId ≠ handoffId) :
    (service.afterUpdate task previous next reply now).Agrees service handoffId report := by
  have hnext : next.handoffId ≠ handoffId := by
    rw [StoredHumanHandoff.handoffId_eq hok.succeeds.identity]
    exact hne
  have hdone : ∀ {call outcome},
      (Phase.done call previous.handoffId outcome).Agrees service handoffId report :=
    fun _ hid => absurd hid hne
  cases task with
  | expire call readId accessTokenDigest checkedAt =>
      have hread := hok.task.1
      rcases reply with error | (_ | _)
      · exact hread ▸ hdone
      · trivial
      · exact authorized_agrees_of_ne hnext call
  | reclaim =>
      rcases reply with error | (_ | _)
      · exact hdone
      · exact hdone
      · exact claimCurrent_agrees hnext
  | claim =>
      rcases reply with error | (_ | _)
      · exact hdone
      · exact hdone
      · simp only [afterUpdate]
        split_ifs <;> exact hnext
  | release =>
      cases reply with
      | error error => exact hne
      | ok updated => exact hdone
  | complete token =>
      rcases reply with error | (_ | _)
      · exact hne
      · exact hne
      · exact hdone
  | fail => cases reply <;> exact hdone
  | cancel => cases reply <;> exact hdone

end HumanHandoffService

theorem Moves.agrees {before after : Phase} (h : Moves service now before after)
    (hok : PhaseOk service strict now log before)
    (hbefore : before.Agrees service handoffId report) :
    after.Agrees service handoffId report := by
  cases h with
  | call => trivial
  | read call readId accessTokenDigest checkedAt fetched =>
      exact HumanHandoffService.afterRead_agrees call accessTokenDigest checkedAt hok hbefore
  | updated task previous next reply =>
      exact HumanHandoffService.afterUpdate_agrees hok.1 hbefore
  | cancel record => exact hbefore
  | provider claimed answer => cases answer <;> exact hbefore
  | requirement claimed found => rcases found with _ | (_ | _) <;> exact hbefore
  | unsatisfied claimed => exact hbefore
  | protect claimed token completion => cases completion <;> exact hbefore

end Later

/-! ## Runs -/

section Steps

variable {ι σ : Type} (service : HumanHandoffService) (store : HandoffStore σ) (strict : Bool)

/-- The update of `#failClaimed` finds the claimed record, one that has failed
with the same code, or none. -/
def FailLands (s : HandoffState ι σ) : HandoffEvent ι → Prop
  | .execute i => ∀ claimed failed checkedAt current,
      s.phase i = .updating .fail claimed failed checkedAt →
      s.stored store claimed.handoffId = some current →
      current = claimed ∨
        (current.status = .failed ∧ current.failureCode = failed.failureCode)
  | _ => True

def Settled (s : HandoffState ι σ) (handoffId : JsString) (report : TerminalReport) : Prop :=
  (∃ record, Ends service strict s.log handoffId report record) ∨
    (handoffId ∈ s.issued ∧ s.stored store handoffId = none)

def AnswersSettled (s : HandoffState ι σ) : Prop :=
  ∀ i handoffId report, (s.phase i).reported = some (handoffId, report) →
    Settled service store strict s handoffId report

variable {service store strict} {valid : Instant → σ → Prop} {s t : HandoffState ι σ}
  {handoffId : JsString} {report : TerminalReport}

theorem Ends.mono {log log' : List StoredHumanHandoff} {record : StoredHumanHandoff}
    (h : Ends service strict log handoffId report record) (hsub : log ⊆ log') :
    Ends service strict log' handoffId report record :=
  ⟨h.toHeld.mono hsub, h.named, h.terminal, h.reports⟩

theorem StoreChange.stored_none (hstore : KeepsHandoffs store strict valid)
    (hchange : StoreChange service store strict s t) (hissued : handoffId ∈ s.issued)
    (hnone : s.stored store handoffId = none) :
    handoffId ∈ t.issued ∧ t.stored store handoffId = none := by
  cases hchange with
  | kept now_le store_eq log_eq issued updated_eq =>
      refine ⟨issued hissued, ?_⟩
      cases hfound : t.stored store handoffId with
      | none => rfl
      | some found =>
          rw [HandoffState.stored, store_eq] at hfound
          cases hnone.symm.trans (hstore.stored_later now_le hfound)
  | created record now_eq fresh version status unmarked wrote log_eq issued_eq updated_eq =>
      refine ⟨issued_eq ▸ List.mem_cons_of_mem _ hissued, ?_⟩
      have hne : handoffId ≠ record.handoffId := fun heq => fresh (heq ▸ hissued)
      rw [HandoffState.stored, now_eq, wrote.others handoffId hne]
      exact hnone
  | swapped previous next now_eq held succeeds stored opens wrote log_eq issued_eq updated_eq
      cause =>
      refine ⟨issued_eq ▸ hissued, ?_⟩
      have hne : handoffId ≠ next.handoffId := by
        rintro rfl
        rw [StoredHumanHandoff.handoffId_eq succeeds.identity] at hnone
        cases hnone.symm.trans stored
      rw [HandoffState.stored, now_eq, wrote.others handoffId hne]
      exact hnone

theorem Settled.step (hstore : KeepsHandoffs store strict valid)
    (hchange : StoreChange service store strict s t)
    (h : Settled service store strict s handoffId report) :
    Settled service store strict t handoffId report := by
  rcases h with ⟨record, hends⟩ | ⟨hissued, hnone⟩
  · exact Or.inl ⟨record, hends.mono hchange.log_mono⟩
  · exact Or.inr (hchange.stored_none hstore hissued hnone)

theorem Settled.stored (hsettled : Settled service store strict s handoffId report)
    (h : HandoffInvariant service store strict valid s) {record : StoredHumanHandoff}
    (hrecord : s.stored store handoffId = some record) :
    Ends service strict s.log handoffId report record := by
  rcases hsettled with ⟨final, hends⟩ | ⟨_, hnone⟩
  · have hcurrent : s.stored store final.handoffId = some record := hends.named.symm ▸ hrecord
    rw [h.versions.stored_of_final hends.logged hends.terminal hcurrent]
    exact hends
  · exact nomatch hnone.symm.trans hrecord

variable [DecidableEq ι]

/-- What `#failClaimed` answers when its update lands. -/
theorem UpdateOk.fail_settled (hstore : KeepsHandoffs store strict valid)
    (h : HandoffInvariant service store strict valid s) {i : ι} {task : UpdateTask}
    {previous next : StoredHumanHandoff} {checkedAt : Instant}
    (hok : UpdateOk service strict s.now s.log task previous next)
    (hlands : FailLands store s (.execute i))
    (hphase : s.phase i = .updating task previous next checkedAt)
    (hreported : (Phase.updated task previous next
      (store.update previous next checkedAt s.now s.store).1).reported =
        some (handoffId, report)) :
    Settled service store strict (s.update store i task previous next checkedAt) handoffId
      report := by
  have htask : task = .fail := by
    cases task with
    | fail => rfl
    | expire | reclaim | claim | release | complete | cancel => exact nomatch hreported
  subst htask
  have hstep : HandoffStep service store s (s.update store i .fail previous next checkedAt) :=
    .update i .fail previous next checkedAt hphase
  obtain ⟨hchange, _⟩ := h.step hstore hstep
  obtain ⟨_, code, rfl⟩ := hok.task
  have hreport : previous.handoffId = handoffId ∧
      report = .failed ((previous.fail code).failureCode.getD []) := by
    revert hreported
    cases (store.update previous (previous.fail code) checkedAt s.now s.store).1 with
    | error error => exact fun hreported => nomatch hreported
    | ok updated =>
        intro hreported
        obtain ⟨hid, hreport⟩ := Prod.mk.inj (Option.some.inj hreported)
        exact ⟨hid, hreport.symm⟩
  obtain ⟨rfl, rfl⟩ := hreport
  have hfailed : ∀ {current : StoredHumanHandoff}, Readable strict current →
      current.handoffId = previous.handoffId → current.status = .failed →
      current.failureCode = (previous.fail code).failureCode →
      current ∈ (s.update store i .fail previous (previous.fail code) checkedAt).log →
      Settled service store strict
        (s.update store i .fail previous (previous.fail code) checkedAt) previous.handoffId
        (.failed ((previous.fail code).failureCode.getD [])) :=
    fun hreadable hid hstatus hcode hlogged =>
      Or.inl ⟨_, ⟨hlogged, hreadable⟩, hid, by rw [hstatus]; rfl,
        StoredHumanHandoff.report_of_failed hstatus hcode⟩
  cases hcurrent : s.stored store previous.handoffId with
  | none =>
      exact Or.inr (hchange.stored_none hstore (h.issued _ hok.held.logged) hcurrent)
  | some current =>
      obtain ⟨hlogged, hid⟩ := h.versions.logged hcurrent
      rcases hlands _ _ checkedAt current hphase hcurrent with rfl | ⟨hstatus, hcode⟩
      · have htrue := hstore.update_ok checkedAt h.valid hok.held.nonterminal hok.succeeds
          hok.held.readable hcurrent
        refine hfailed (hok.held.readable.next hok.succeeds) rfl rfl rfl ?_
        rw [s.update_of_true store i .fail htrue]
        exact List.mem_cons_self
      · have hidentity := h.versions.lineage hok.held.logged hlogged hid
        have hversion := h.versions.newest hok.held.logged hcurrent
        exact hfailed (hok.held.readable.later hidentity hversion) hid hstatus hcode
          (hchange.log_mono hlogged)

theorem AnswersSettled.step (hstore : KeepsHandoffs store strict valid)
    (h : HandoffInvariant service store strict valid s)
    (hanswers : AnswersSettled service store strict s) {event : HandoffEvent ι}
    (hlands : FailLands store s event)
    (hstep : handoffStep service store s event = some t) :
    AnswersSettled service store strict t := by
  have hcases := handoffStep_cases hstep
  obtain ⟨hchange, ht⟩ := h.step hstore hcases
  intro i handoffId report hreported
  by_cases hmoved : t.phase i = s.phase i
  · exact (hanswers i handoffId report (hmoved ▸ hreported)).step hstore hchange
  · have hself : ∀ {j phase}, t.phase = Function.update s.phase j phase →
        j = i ∧ t.phase i = phase := by
      intro j phase hphases
      have hj : j = i := by
        by_contra hj
        exact hmoved (by rw [hphases, Function.update_of_ne (Ne.symm hj)])
      subst hj
      exact ⟨rfl, by rw [hphases, Function.update_self]⟩
    cases hcases with
    | tick | refused | create => exact absurd rfl hmoved
    | move j phase hmoves =>
        obtain ⟨rfl, hphase⟩ := hself rfl
        rw [hphase] at hreported
        rcases hmoves.reported (h.phases j) hreported with hbefore | ⟨record, hends⟩
        · exact (hanswers j handoffId report hbefore).step hstore hchange
        · exact Or.inl ⟨record, hends.mono hchange.log_mono⟩
    | read j call readId accessTokenDigest checkedAt hphase =>
        rw [(hself rfl).2] at hreported
        exact nomatch hreported
    | satisfied j claimed token hphase =>
        rw [(hself rfl).2] at hreported
        exact nomatch hreported
    | update j task previous next checkedAt hphase =>
        obtain ⟨rfl, hafter⟩ := hself (s.update_phase store j task previous next checkedAt)
        have hevent := handoffStep_execute hstep hphase hmoved
        subst hevent
        have hok := h.phases j
        rw [hphase] at hok
        rw [hafter] at hreported
        exact hok.fail_settled hstore h hlands hphase hreported

theorem Settled.agrees (hstore : KeepsHandoffs store strict valid)
    (h : HandoffInvariant service store strict valid s)
    (hsettled : Settled service store strict s handoffId report)
    (hstep : HandoffStep service store s t) {j : ι}
    (hj : (s.phase j).Agrees service handoffId report) :
    (t.phase j).Agrees service handoffId report := by
  have hself : ∀ {i phase}, t.phase = Function.update s.phase i phase →
      (i = j → phase.Agrees service handoffId report) →
      (t.phase j).Agrees service handoffId report := by
    intro i phase hphases hagrees
    rw [hphases]
    by_cases hi : j = i
    · subst hi
      rw [Function.update_self]
      exact hagrees rfl
    · rwa [Function.update_of_ne hi]
  cases hstep with
  | tick | refused | create => exact hj
  | move i phase hmoves =>
      refine hself rfl fun hi => ?_
      subst hi
      exact hmoves.agrees (h.phases i) hj
  | update i task previous next checkedAt hphase =>
      refine hself (s.update_phase store i task previous next checkedAt) fun hi => ?_
      subst hi
      rw [hphase] at hj
      exact hj
  | satisfied i claimed token hphase =>
      refine hself rfl fun hi => ?_
      subst hi
      rw [hphase] at hj
      exact hj
  | read i call readId accessTokenDigest checkedAt hphase =>
      refine hself rfl fun _ hid => ?_
      obtain ⟨_, hfetch⟩ := hstore.fetch readId accessTokenDigest checkedAt h.valid
      have hends : ∀ {record}, store.stored s.now s.store readId = some record →
          Ends service strict s.log handoffId report record :=
        fun hstored => hsettled.stored h (hid ▸ hstored)
      revert hfetch
      rcases store.fetch readId accessTokenDigest checkedAt s.now s.store with ⟨fetched, after⟩
      intro hfetch
      cases fetched with
      | unknown => exact Or.inl rfl
      | found record => exact Or.inr ⟨record, rfl, (hends hfetch.2.1).reports⟩
      | expired record =>
          obtain ⟨_, previous, _, hstored, _, hopen, _⟩ := hfetch
          exact absurd (hends hstored).terminal (by simp [hopen])
      | expiring record =>
          obtain ⟨_, hstored, _, hopen, _⟩ := hfetch
          exact absurd (hends hstored).terminal (by simp [hopen])
      | failed error =>
          obtain ⟨_, record, hstored, hunreadable⟩ := hfetch
          exact absurd (hends hstored).readable hunreadable

/-- An answer that a caller has at `s`, and what the store and later polls say at `t`. -/
structure FinalAnswers (service : HumanHandoffService) (store : HandoffStore σ)
    (s t : HandoffState ι σ) : Prop where
  stored : ∀ {i call handoffId outcome report record},
    s.phase i = .done call handoffId outcome → outcome.report = some report →
    t.stored store handoffId = some record → record.report service.unprotect = some report
  polls : ∀ {i j call handoffId outcome report answer},
    s.phase i = .done call handoffId outcome → outcome.report = some report →
    s.phase j = .idle → t.phase j = .done .poll handoffId answer →
    answer = .threw ⟨js "Unknown handoff capability"⟩ ∨ answer.report = some report

def FinalRuns (ι : Type) [DecidableEq ι] {σ : Type} (service : HumanHandoffService)
    (store : HandoffStore σ) (guard : HandoffState ι σ → HandoffEvent ι → Prop) : Prop :=
  ∀ {now events later} {s t : HandoffState ι σ},
    (handoffMachine service store).Along guard (.initial store now) events →
    (handoffMachine service store).run (.initial store now) events = some s →
    (handoffMachine service store).Along guard s later →
    (handoffMachine service store).run s later = some t → FinalAnswers service store s t

theorem AnswersSettled.run (hstore : KeepsHandoffs store strict valid) {now : Instant}
    {events : List (HandoffEvent ι)}
    (hlands : (handoffMachine service store).Along (FailLands store) (.initial store now) events)
    (hrun : (handoffMachine service store).run (.initial store now) events = some s) :
    HandoffInvariant service store strict valid s ∧ AnswersSettled service store strict s := by
  refine (handoffMachine service store).invariant_along
    (I := fun u => HandoffInvariant service store strict valid u ∧
      AnswersSettled service store strict u)
    (fun u event v hu hguard hstep => ?_) ⟨.initial hstore now, fun _ _ _ h => nomatch h⟩ hlands
    hrun
  exact ⟨(hu.1.step hstore (handoffStep_cases hstep)).2, hu.2.step hstore hu.1 hguard hstep⟩

theorem finalRuns_of_keeps (hstore : KeepsHandoffs store strict valid) :
    FinalRuns ι service store (FailLands store) := by
  intro now events later s t hlands hrun hlands' hlater
  obtain ⟨h, hanswers⟩ := AnswersSettled.run hstore hlands hrun
  have hsettled : ∀ {i call handoffId outcome report},
      s.phase i = .done call handoffId outcome → outcome.report = some report →
      Settled service store strict s handoffId report := by
    intro i call handoffId outcome report hdone hreport
    refine hanswers i handoffId report ?_
    rw [hdone]
    simp [Phase.reported, hreport]
  -- what holds of one settled handoff and of the calls that are idle at `s`
  have hend : ∀ {handoffId report}, Settled service store strict s handoffId report →
      (HandoffInvariant service store strict valid t ∧
        Settled service store strict t handoffId report ∧
        ∀ j, s.phase j = .idle → (t.phase j).Agrees service handoffId report) := by
    intro handoffId report hs
    refine (handoffMachine service store).invariant_run
      (I := fun u => HandoffInvariant service store strict valid u ∧
        Settled service store strict u handoffId report ∧
        ∀ j, s.phase j = .idle → (u.phase j).Agrees service handoffId report)
      (fun u event v hu hstep => ?_) ⟨h, hs, fun j hj => by rw [hj]; trivial⟩ hlater
    obtain ⟨hinv, hu, hagrees⟩ := hu
    obtain ⟨hchange, hnext⟩ := hinv.step hstore (handoffStep_cases hstep)
    exact ⟨hnext, hu.step hstore hchange,
      fun j hj => hu.agrees hstore hinv (handoffStep_cases hstep) (hagrees j hj)⟩
  refine ⟨fun hdone hreport hrecord => ?_, fun hdone hreport hidle hpoll => ?_⟩
  · obtain ⟨ht, hu, _⟩ := hend (hsettled hdone hreport)
    exact (hu.stored ht hrecord).reports
  · obtain ⟨_, _, hagrees⟩ := hend (hsettled hdone hreport)
    have hj := hagrees _ hidle
    rw [hpoll] at hj
    exact hj rfl rfl

end Steps

structure TerminalAnswersFinal (ι : Type) [DecidableEq ι] (service : HumanHandoffService)
    (guard : ∀ {σ}, HandoffStore σ → HandoffState ι σ → HandoffEvent ι → Prop) : Prop where
  inMemory : FinalRuns ι service inMemoryHandoffStore (guard inMemoryHandoffStore)
  redis : ∀ keyPrefix,
    FinalRuns ι service (redisHandoffStore keyPrefix) (guard (redisHandoffStore keyPrefix))
  postgres : FinalRuns ι service postgresHandoffStore (guard postgresHandoffStore)

/-! ## A failure that is told and not stored -/

namespace LostFailure

def service : HumanHandoffService where
  adapters providerId := if providerId = js "world" then some [js "m"] else none
  unprotect _ := .ok none

def requirement : HumanRequirement where
  x424Version := js "0.1"
  dependencyId := js "d"
  purpose := js "p"
  resource := ⟨js "POST", js "https://a.example/x", js "https://a.example", js "sha256:"⟩
  nonce := js "n"
  binding := ⟨.session, js "s"⟩
  createdAt := some 0
  expiresAt := some 60000
  accepts := [⟨js "world", js "m", js "1", none, [.action], none, none⟩]
  providerRequestKeys := []

def started : StartedProviderHandoff where
  presentation := ⟨js "https://p.example", none⟩
  protectedState := js "x"
  expiresAt := some 60000
  pollAfterMs := none

/-- Worker `true` polls the provider while call `false` cancels; the provider
has failed. -/
def events : List (HandoffEvent Bool) :=
  [.start (some requirement) ⟨js "d", js "n", js "world", js "m"⟩ started (js "h") (js "a") 0 0,
    .call true .poll (js "h") (js "a"), .execute true, .resume true, .execute true, .resume true,
    .call false .cancel (js "h") (js "a"), .execute false, .resume false, .resume false,
    .execute false, .resume false, .provider true (.failed (js "USER_REJECTED")), .execute true,
    .resume true]

def outcome? : Phase → Option (HandoffCall × JsString × HandoffOutcome)
  | .done call handoffId outcome => some (call, handoffId, outcome)
  | _ => none

theorem eq_done {phase : Phase} {call : HandoffCall} {handoffId : JsString}
    {outcome : HandoffOutcome} (h : outcome? phase = some (call, handoffId, outcome)) :
    phase = .done call handoffId outcome := by
  unfold outcome? at h
  split at h
  · cases h
    rfl
  · cases h

end LostFailure

theorem failure_told_while_cancelled :
    ∃ service : HumanHandoffService, ¬ TerminalAnswersFinal Bool service fun _ _ _ => True := by
  refine ⟨LostFailure.service, fun h => ?_⟩
  let M := handoffMachine (ι := Bool) LostFailure.service inMemoryHandoffStore
  let start := HandoffState.initial (ι := Bool) inMemoryHandoffStore 0
  let failed : HandoffOutcome := .view (.failed (js "h") (js "USER_REJECTED") 60000)
  let observed (s : HandoffState Bool InMemoryHandoffs) :=
    (LostFailure.outcome? (s.phase true), (s.stored inMemoryHandoffStore (js "h")).map
      (StoredHumanHandoff.report LostFailure.service.unprotect))
  have hobserved : (M.run start LostFailure.events).map observed =
      some (some (.poll, js "h", failed), some (some .cancelled)) := by decide +kernel
  obtain ⟨s, hrun, hs⟩ := Option.map_eq_some_iff.mp hobserved
  obtain ⟨hdone, hstored⟩ := Prod.mk.inj hs
  obtain ⟨record, hrecord, hreport⟩ := Option.map_eq_some_iff.mp hstored
  have hfinal := h.inMemory (M.along_true _ _) hrun (M.along_true s []) rfl
  have hsame := @FinalAnswers.stored _ _ _ _ _ _ hfinal _ _ _ _ (.failed (js "USER_REJECTED")) _
    (LostFailure.eq_done hdone) rfl hrecord
  exact nomatch hreport.symm.trans hsame

theorem terminalAnswers_final (ι : Type) [DecidableEq ι] (service : HumanHandoffService) :
    TerminalAnswersFinal ι service FailLands where
  inMemory := finalRuns_of_keeps inMemory_keepsHandoffs
  redis keyPrefix := finalRuns_of_keeps (redis_keepsHandoffs keyPrefix)
  postgres := finalRuns_of_keeps postgres_keepsHandoffs

end X424
