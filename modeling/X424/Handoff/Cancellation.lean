import X424.Handoff.Answers

/-!
# Cancellations that report false

What a call of `cancel` does besides its answer: the records that it writes,
and the provider adapter that it asks to cancel the session before it compares
and swaps.  When a cancellation that reports `false` has done nothing.
-/

namespace X424

open Foundation

/-! ## Effects -/

inductive CallEffect where
  | asked (record : StoredHumanHandoff)
  | wrote (record : StoredHumanHandoff)
  deriving DecidableEq

/-- `asks` tells whether the record's adapter has a `cancelHandoff` and its session can be
opened. -/
def Phase.asked (asks : StoredHumanHandoff → Bool) : Phase → List CallEffect
  | cancelling record => if asks record then [.asked record] else []
  | idle | reading _ _ _ _ | read _ _ _ _ _ | updating _ _ _ _ | updated _ _ _ _ | polling _
  | lookingUp _ | satisfying _ | protecting _ _ | done _ _ _ => []

section Effects

variable {ι σ : Type} [DecidableEq ι] (service : HumanHandoffService) (store : HandoffStore σ)
  (asks : StoredHumanHandoff → Bool)

def HandoffState.written (s : HandoffState ι σ) (i : ι) : List StoredHumanHandoff :=
  match s.phase i with
  | .reading _ handoffId accessTokenDigest checkedAt =>
      (store.fetch handoffId accessTokenDigest checkedAt s.now s.store).1.written
  | .updating _ previous next checkedAt =>
      if (store.update previous next checkedAt s.now s.store).1 = .ok true then [next] else []
  | _ => []

def HandoffState.effects (i : ι) (s : HandoffState ι σ) (event : HandoffEvent ι) :
    List CallEffect :=
  if event.worker = some i then
    (match event with
      | .execute _ => (s.written store i).map .wrote
      | _ => []) ++
      ((handoffStep service store s event).map fun t => (t.phase i).asked asks).getD []
  else []

def Phase.target : Phase → Option StoredHumanHandoff
  | read .cancel _ _ _ (.found record) => if record.status.terminal then none else some record
  | cancelling record => some record
  | updating .cancel record _ _ => some record
  | _ => none

/-- No cancellation comes upon an expired handoff, and nobody else writes the handoff of a
cancellation that asks its adapter, nor does the store drop it. -/
structure CancelsAlone (s : HandoffState ι σ) (event : HandoffEvent ι) : Prop where
  unexpired : ∀ {i handoffId accessTokenDigest checkedAt}, event = .execute i →
    s.phase i = .reading .cancel handoffId accessTokenDigest checkedAt →
    ∀ record, (store.fetch handoffId accessTokenDigest checkedAt s.now s.store).1 ≠
      .expired record ∧
      (store.fetch handoffId accessTokenDigest checkedAt s.now s.store).1 ≠ .expiring record
  others : ∀ {i j record}, event = .execute j → j ≠ i → (s.phase i).target = some record →
    asks record = true → ∀ written ∈ s.written store j, written.handoffId ≠ record.handoffId
  present : ∀ {i previous next checkedAt}, event = .execute i →
    s.phase i = .updating .cancel previous next checkedAt → asks previous = true →
    s.stored store previous.handoffId ≠ none

end Effects

/-! ## What a phase says about the effects of its call -/

section Quiet

variable (asks : StoredHumanHandoff → Bool) (effects : List CallEffect)

def Phase.Quiet : Phase → Prop
  | idle => effects = []
  | reading .cancel _ _ _ => effects = []
  | read .cancel _ _ _ fetched =>
      effects = [] ∧ ∀ record, fetched ≠ .expired record ∧ fetched ≠ .expiring record
  | updating (.expire .cancel _ _ _) _ _ _ => False
  | updated (.expire .cancel _ _ _) _ _ _ => False
  | cancelling record => asks record = false → effects = []
  | updating .cancel record _ _ => asks record = false → effects = []
  | updated .cancel _ _ reply => reply = .ok false → effects = []
  | done .cancel _ outcome => outcome = .cancelled false → effects = []
  | _ => True

variable {asks effects} {service : HumanHandoffService} {now : Instant}
  {record previous next : StoredHumanHandoff}

namespace HumanHandoffService

theorem claimCurrent_quiet : (claimCurrent record now).Quiet asks effects := by
  unfold claimCurrent
  cases record.claim now <;> trivial

theorem pollAuthorized_quiet : (service.pollAuthorized record now).Quiet asks effects := by
  unfold pollAuthorized
  cases record.terminalView service.unprotect with
  | error error => trivial
  | ok view =>
      cases view with
      | some view => trivial
      | none =>
          simp only
          split_ifs
          · trivial
          · trivial
          · exact claimCurrent_quiet

theorem cancelAuthorized_quiet :
    (cancelAuthorized record).Quiet asks ([] ++ (cancelAuthorized record).asked asks) := by
  unfold cancelAuthorized
  split_ifs
  · exact fun _ => rfl
  · intro hasks
    simp [Phase.asked, hasks]

theorem afterRead_quiet {call : HandoffCall} {handoffId accessTokenDigest : JsString}
    {checkedAt : Instant} {fetched : Fetched}
    (h : (Phase.read call handoffId accessTokenDigest checkedAt fetched).Quiet asks effects) :
    (service.afterRead call handoffId accessTokenDigest checkedAt fetched now).Quiet asks
      (effects ++ (service.afterRead call handoffId accessTokenDigest checkedAt fetched now).asked
        asks) := by
  cases call with
  | poll =>
      cases fetched with
      | unknown | expiring _ | failed _ => trivial
      | found record => exact pollAuthorized_quiet
      | expired record => exact pollAuthorized_quiet
  | cancel =>
      obtain ⟨rfl, hunexpired⟩ := h
      cases fetched with
      | unknown => exact fun _ => rfl
      | found record => exact cancelAuthorized_quiet
      | expired record => exact absurd rfl (hunexpired record).1
      | expiring record => exact absurd rfl (hunexpired record).2
      | failed error => exact fun houtcome => nomatch houtcome

theorem afterUpdate_quiet {task : UpdateTask} {reply : Except JsError Bool}
    (h : (Phase.updated task previous next reply).Quiet asks effects) :
    (service.afterUpdate task previous next reply now).Quiet asks
      (effects ++ (service.afterUpdate task previous next reply now).asked asks) := by
  cases task with
  | expire call handoffId accessTokenDigest checkedAt =>
      cases call with
      | cancel => exact absurd h not_false
      | poll =>
          rcases reply with error | (_ | _)
          · trivial
          · trivial
          · exact pollAuthorized_quiet
  | reclaim =>
      rcases reply with error | (_ | _)
      · trivial
      · trivial
      · exact claimCurrent_quiet
  | claim =>
      rcases reply with error | (_ | _)
      · trivial
      · trivial
      · simp only [afterUpdate]
        split_ifs <;> trivial
  | release => cases reply <;> trivial
  | complete token => rcases reply with error | (_ | _) <;> trivial
  | fail => cases reply <;> trivial
  | cancel =>
      rcases reply with error | (_ | _)
      · intro houtcome
        cases houtcome
      · intro _
        rw [show effects = [] from h rfl]
        rfl
      · intro houtcome
        cases houtcome

theorem claimCurrent_target : (claimCurrent record now).target = none := by
  unfold claimCurrent
  cases record.claim now <;> rfl

theorem pollAuthorized_target : (service.pollAuthorized record now).target = none := by
  unfold pollAuthorized
  cases record.terminalView service.unprotect with
  | error error => rfl
  | ok view =>
      cases view with
      | some view => rfl
      | none =>
          simp only
          split_ifs
          · rfl
          · rfl
          · exact claimCurrent_target

end HumanHandoffService

open HumanHandoffService in
theorem Moves.target {before after : Phase} (hmoves : Moves service now before after)
    (h : before.Quiet asks effects) (htarget : after.target = some record) :
    before.target = some record := by
  cases hmoves with
  | call => cases htarget
  | read call handoffId accessTokenDigest checkedAt fetched =>
      cases call with
      | poll =>
          cases fetched with
          | unknown | expiring _ | failed _ => cases htarget
          | found found => cases pollAuthorized_target.symm.trans htarget
          | expired found => cases pollAuthorized_target.symm.trans htarget
      | cancel =>
          cases fetched with
          | unknown | expiring _ | failed _ => cases htarget
          | expired found => exact absurd rfl (h.2 found).1
          | found found =>
              simp only [afterRead, authorized, cancelAuthorized] at htarget
              split_ifs at htarget with hterminal
              · cases htarget
              · rw [Phase.target, if_neg hterminal]
                exact htarget
  | updated task previous next reply =>
      cases task with
      | expire call handoffId accessTokenDigest checkedAt =>
          cases call with
          | cancel => exact absurd h not_false
          | poll =>
              rcases reply with error | (_ | _)
              · cases htarget
              · cases htarget
              · cases pollAuthorized_target.symm.trans htarget
      | reclaim =>
          rcases reply with error | (_ | _)
          · cases htarget
          · cases htarget
          · cases claimCurrent_target.symm.trans htarget
      | claim =>
          rcases reply with error | (_ | _)
          · cases htarget
          · cases htarget
          · simp only [afterUpdate] at htarget
            split_ifs at htarget <;> cases htarget
      | release => cases reply <;> cases htarget
      | complete token => rcases reply with error | (_ | _) <;> cases htarget
      | fail => cases reply <;> cases htarget
      | cancel => cases reply <;> cases htarget
  | cancel found => exact htarget
  | provider claimed answer => cases answer <;> cases htarget
  | requirement claimed found => rcases found with _ | (_ | _) <;> cases htarget
  | unsatisfied => cases htarget
  | protect claimed token completion => cases completion <;> cases htarget

open HumanHandoffService in
theorem Moves.quiet {before after : Phase} (hmoves : Moves service now before after)
    (h : before.Quiet asks effects) : after.Quiet asks (effects ++ after.asked asks) := by
  cases hmoves with
  | call call handoffId accessTokenDigest =>
      cases call with
      | poll => trivial
      | cancel =>
          rw [show effects = [] from h]
          rfl
  | read => exact afterRead_quiet h
  | updated => exact afterUpdate_quiet h
  | cancel record =>
      intro hasks
      rw [show effects = [] from h hasks]
      rfl
  | provider claimed answer => cases answer <;> trivial
  | requirement claimed found => rcases found with _ | (_ | _) <;> trivial
  | unsatisfied => trivial
  | protect claimed token completion => cases completion <;> trivial

end Quiet

/-! ## Runs -/

section Runs

variable {ι σ : Type} [DecidableEq ι] {service : HumanHandoffService} {store : HandoffStore σ}
  {strict : Bool} {valid : Instant → σ → Prop} {asks : StoredHumanHandoff → Bool}
  {s t : HandoffState ι σ} {i : ι} {effects : List CallEffect}

/-- What is stored under the handoff of a cancellation that asks its adapter is what it has read. -/
structure CancelInvariant (asks : StoredHumanHandoff → Bool) (store : HandoffStore σ) (i : ι)
    (s : HandoffState ι σ) (effects : List CallEffect) : Prop where
  quiet : (s.phase i).Quiet asks effects
  kept : ∀ {record}, (s.phase i).target = some record → asks record = true →
    ∀ current, s.stored store record.handoffId = some current → current = record

theorem effects_of_ne {event : HandoffEvent ι} (h : event.worker ≠ some i) :
    s.effects service store asks i event = [] := if_neg h

theorem effects_execute (hstep : handoffStep service store s (.execute i) = some t)
    (hphase : (t.phase i).asked asks = []) :
    s.effects service store asks i (.execute i) = (s.written store i).map .wrote := by
  simp only [HandoffState.effects, HandoffEvent.worker, if_true, hstep, Option.map_some,
    Option.getD_some, hphase, List.append_nil]

omit [DecidableEq ι] in
theorem target_held (h : HandoffInvariant service store strict valid s)
    {record : StoredHumanHandoff} (htarget : (s.phase i).target = some record) :
    record ∈ s.log := by
  have hok := h.phases i
  cases hphase : s.phase i with
  | read call handoffId accessTokenDigest checkedAt fetched =>
      rw [hphase] at hok htarget
      cases call with
      | poll => cases htarget
      | cancel =>
          cases fetched with
          | found found =>
              simp only [Phase.target] at htarget
              split_ifs at htarget
              cases htarget
              exact hok.1.logged
          | unknown | expired _ | expiring _ | failed _ => cases htarget
  | cancelling found =>
      rw [hphase] at hok htarget
      cases htarget
      exact hok.logged
  | updating task previous next checkedAt =>
      rw [hphase] at hok htarget
      cases task with
      | cancel =>
          cases htarget
          exact hok.held.logged
      | expire | reclaim | claim | release | complete | fail => cases htarget
  | idle | reading | updated | polling | lookingUp | satisfying | protecting | done =>
      rw [hphase] at htarget
      cases htarget

theorem CancelInvariant.others (h : CancelInvariant asks store i s effects)
    {event : HandoffEvent ι} (hworker : event.worker ≠ some i) (hphase : t.phase i = s.phase i)
    (hstored : ∀ {record}, (s.phase i).target = some record → asks record = true →
      ∀ current, t.stored store record.handoffId = some current →
        s.stored store record.handoffId = some current) :
    CancelInvariant asks store i t (effects ++ s.effects service store asks i event) := by
  rw [effects_of_ne hworker, List.append_nil]
  refine ⟨hphase ▸ h.quiet, fun htarget hasks current hcurrent => ?_⟩
  rw [hphase] at htarget
  exact h.kept htarget hasks current (hstored htarget hasks current hcurrent)

theorem CancelInvariant.read (hstore : KeepsHandoffs store strict valid)
    (hinvariant : HandoffInvariant service store strict valid s)
    (h : CancelInvariant asks store i s effects) {call : HandoffCall}
    {handoffId accessTokenDigest : JsString} {checkedAt : Instant}
    (hphase : s.phase i = .reading call handoffId accessTokenDigest checkedAt)
    (halone : CancelsAlone store asks s (.execute i))
    (hstep : handoffStep service store s (.execute i) =
      some (s.read store i call handoffId accessTokenDigest checkedAt)) :
    CancelInvariant asks store i (s.read store i call handoffId accessTokenDigest checkedAt)
      (effects ++ s.effects service store asks i (.execute i)) := by
  have hquiet := h.quiet
  rw [hphase] at hquiet
  have hnext : (s.read store i call handoffId accessTokenDigest checkedAt).phase i =
      .read call handoffId accessTokenDigest checkedAt
        (store.fetch handoffId accessTokenDigest checkedAt s.now s.store).1 :=
    Function.update_self _ _ _
  cases call with
  | poll =>
      refine ⟨by rw [hnext]; trivial, fun htarget => ?_⟩
      rw [hnext] at htarget
      cases htarget
  | cancel =>
      have hunexpired := halone.unexpired rfl hphase
      obtain ⟨-, hfetch⟩ := hstore.fetch handoffId accessTokenDigest checkedAt hinvariant.valid
      have heffects : s.effects service store asks i (.execute i) =
          (store.fetch handoffId accessTokenDigest checkedAt s.now s.store).1.written.map
            .wrote := by
        rw [effects_execute hstep (by rw [hnext]; rfl), HandoffState.written, hphase]
      refine ⟨?_, fun {record} htarget hasks current hcurrent => ?_⟩
      · rw [hnext, heffects]
        refine ⟨?_, hunexpired⟩
        rw [show effects = [] from hquiet]
        rcases hreply : (store.fetch handoffId accessTokenDigest checkedAt s.now s.store).1 with
          _ | record | record | record | error
        · rfl
        · rfl
        · exact absurd hreply (hunexpired record).1
        · rfl
        · rfl
      · rw [hnext] at htarget
        obtain ⟨fetched, after, hreply⟩ :
            ∃ fetched after, store.fetch handoffId accessTokenDigest checkedAt s.now s.store =
              (fetched, after) := ⟨_, _, rfl⟩
        rw [hreply] at hfetch htarget
        cases fetched with
        | unknown | expired _ | expiring _ | failed _ => cases htarget
        | found found =>
            obtain ⟨hsame, hstored, -⟩ := hfetch
            simp only [Phase.target] at htarget
            split_ifs at htarget
            cases htarget
            have hid : record.handoffId = handoffId := (hinvariant.versions.logged hstored).2
            have hafter : (s.read store i .cancel handoffId accessTokenDigest checkedAt).stored
                store handoffId = s.stored store handoffId := by
              simp only [HandoffState.stored, HandoffState.read, HandoffState.setPhase, hreply,
                hsame]
            rw [hid, hafter] at hcurrent
            exact Option.some.inj (hcurrent.symm.trans hstored)

theorem CancelInvariant.update (hstore : KeepsHandoffs store strict valid)
    (hinvariant : HandoffInvariant service store strict valid s)
    (h : CancelInvariant asks store i s effects) {task : UpdateTask}
    {previous next : StoredHumanHandoff} {checkedAt : Instant}
    (hphase : s.phase i = .updating task previous next checkedAt)
    (halone : CancelsAlone store asks s (.execute i))
    (hstep : handoffStep service store s (.execute i) =
      some (s.update store i task previous next checkedAt)) :
    CancelInvariant asks store i (s.update store i task previous next checkedAt)
      (effects ++ s.effects service store asks i (.execute i)) := by
  have hquiet := h.quiet
  have hok := hinvariant.phases i
  rw [hphase] at hquiet hok
  have hnext : (s.update store i task previous next checkedAt).phase i =
      .updated task previous next (store.update previous next checkedAt s.now s.store).1 := by
    rw [s.update_phase store i]
    exact Function.update_self _ _ _
  refine ⟨?_, fun htarget => ?_⟩
  · rw [hnext]
    cases task with
    | expire call handoffId accessTokenDigest readAt =>
        cases call with
        | poll => trivial
        | cancel => exact absurd hquiet not_false
    | reclaim | claim | release | complete | fail => trivial
    | cancel =>
        intro hfalse
        have hasks : asks previous = false := by
          by_contra hasks
          rw [Bool.not_eq_false] at hasks
          have htarget : (s.phase i).target = some previous := by
            rw [hphase]
            rfl
          obtain ⟨current, hcurrent⟩ :=
            Option.ne_none_iff_exists'.mp (halone.present rfl hphase hasks)
          have hstored := h.kept htarget hasks current hcurrent
          rw [hstored] at hcurrent
          have htrue := hstore.update_ok checkedAt hinvariant.valid hok.held.nonterminal
            hok.succeeds hok.held.readable hcurrent
          exact nomatch hfalse.symm.trans htrue
        have hwritten : s.written store i = [] := by
          simp only [HandoffState.written, hphase, hfalse]
          exact if_neg (by simp)
        rw [show effects = [] from hquiet hasks, effects_execute hstep (by rw [hnext]; rfl),
          hwritten]
        rfl
  · rw [hnext] at htarget
    cases htarget

theorem CancelInvariant.step (hstore : KeepsHandoffs store strict valid)
    (hinvariant : HandoffInvariant service store strict valid s)
    (h : CancelInvariant asks store i s effects) {event : HandoffEvent ι}
    (halone : CancelsAlone store asks s event)
    (hstep : handoffStep service store s event = some t) :
    CancelInvariant asks store i t (effects ++ s.effects service store asks i event) := by
  have hkept : ∀ {record}, (s.phase i).target = some record → asks record = true →
      ∀ j, j ≠ i → event = .execute j → ∀ written ∈ s.written store j,
        written.handoffId ≠ record.handoffId :=
    fun htarget hasks j hj hevent => halone.others hevent hj htarget hasks
  cases handoffStep_events hstep with
  | tick time hle =>
      refine h.others (fun hworker => nomatch hworker) rfl fun _ _ current hcurrent => ?_
      exact hstore.stored_later hle hcurrent
  | refused => exact h.others (fun hworker => nomatch hworker) rfl fun _ _ _ hcurrent => hcurrent
  | @create _ _ _ _ _ _ record sentAt hfresh hstart =>
      refine h.others (fun hworker => nomatch hworker) rfl fun htarget _ current hcurrent => ?_
      obtain ⟨found, _, _, _, _, _, _, rfl⟩ := start_eq_ok hstart
      have hissued := hinvariant.issued _ (target_held hinvariant htarget)
      obtain ⟨-, ⟨-, -, hwrote⟩ | ⟨-, hsame⟩⟩ := hstore.create sentAt hinvariant.valid
        (show (startRecord found _ _ _ _ _).status.terminal = false from rfl)
      · refine (hwrote.others _ fun heq => ?_).symm.trans hcurrent
        rw [heq] at hissued
        exact hfresh hissued
      · simpa only [HandoffState.stored, HandoffState.create, hsame] using hcurrent
  | @move _ j phase hworker hmoves =>
      by_cases hj : j = i
      · subst hj
        have hwritten : s.written store j = [] := by
          simp only [HandoffState.written]
          split
          · next hphase =>
            rw [hphase] at hmoves
            cases hmoves
          · next hphase =>
            rw [hphase] at hmoves
            cases hmoves
          · rfl
        have heffects : s.effects service store asks j event = phase.asked asks := by
          simp only [HandoffState.effects, hworker, if_true, hstep, Option.map_some,
            Option.getD_some, s.setPhase_self]
          cases event <;> simp [hwritten]
        rw [heffects]
        refine ⟨by rw [s.setPhase_self]; exact hmoves.quiet h.quiet, fun htarget => ?_⟩
        rw [s.setPhase_self] at htarget
        exact h.kept (hmoves.target h.quiet htarget)
      · have hother : event.worker ≠ some i := by
          rw [hworker]
          exact fun heq => hj (Option.some.inj heq)
        exact h.others hother (s.setPhase_of_ne _ (Ne.symm hj)) fun _ _ _ hcurrent => hcurrent
  | read j call handoffId accessTokenDigest checkedAt hphase =>
      by_cases hj : j = i
      · subst hj
        exact h.read hstore hinvariant hphase halone hstep
      · refine h.others (fun heq => hj (Option.some.inj heq))
          (Function.update_of_ne (Ne.symm hj) _ _) fun htarget hasks current hcurrent => ?_
        have hwritten := hkept htarget hasks j hj rfl
        obtain ⟨-, hfetch⟩ := hstore.fetch handoffId accessTokenDigest checkedAt hinvariant.valid
        obtain ⟨fetched, after, hreply⟩ :
            ∃ fetched after, store.fetch handoffId accessTokenDigest checkedAt s.now s.store =
              (fetched, after) := ⟨_, _, rfl⟩
        simp only [HandoffState.written, hphase, hreply] at hwritten
        rw [hreply] at hfetch
        have hafter : (s.read store j call handoffId accessTokenDigest checkedAt).store =
            after := by
          simp only [HandoffState.read, HandoffState.setPhase, hreply]
        cases fetched with
        | unknown | found _ | expiring _ | failed _ =>
            simpa only [HandoffState.stored, HandoffState.read, HandoffState.setPhase, hreply,
              hfetch.1] using hcurrent
        | expired record =>
            have hne := hwritten record (List.mem_singleton_self _)
            rw [← hafter] at hfetch
            exact (hfetch.1.others _ (Ne.symm hne)).symm.trans hcurrent
  | update j task previous next checkedAt hphase =>
      by_cases hj : j = i
      · subst hj
        exact h.update hstore hinvariant hphase halone hstep
      · refine h.others (fun heq => hj (Option.some.inj heq)) ?_
          fun htarget hasks current hcurrent => ?_
        · rw [s.update_phase store j]
          exact Function.update_of_ne (Ne.symm hj) _ _
        have hwritten := hkept htarget hasks j hj rfl
        have hok := hinvariant.phases j
        rw [hphase] at hok
        obtain ⟨-, hwrites⟩ := hstore.update checkedAt hinvariant.valid hok.held.nonterminal
          hok.succeeds fun current hstored hversion =>
            hinvariant.versions.eq_stored hok.held.logged hstored hversion
        rcases hwrites with ⟨htrue, -, hwrote⟩ | ⟨hfailed, hsame⟩
        · simp only [HandoffState.written, hphase, htrue, if_true] at hwritten
          have hne := hwritten next (List.mem_singleton_self _)
          rw [s.update_of_true store j task htrue] at hcurrent
          exact (hwrote.others _ (Ne.symm hne)).symm.trans hcurrent
        · rw [s.update_of_not_true store j task hfailed] at hcurrent
          simpa only [HandoffState.stored, HandoffState.setPhase, hsame] using hcurrent
  | satisfied j claimed token hphase =>
      by_cases hj : j = i
      · subst hj
        have hnext : (s.setPhase j (.protecting claimed token)).phase j =
            .protecting claimed token := s.setPhase_self _ _
        refine ⟨?_, fun htarget => ?_⟩
        · change Phase.Quiet asks _ ((s.setPhase j (.protecting claimed token)).phase j)
          rw [hnext]
          trivial
        · change ((s.setPhase j (.protecting claimed token)).phase j).target = _ at htarget
          rw [hnext] at htarget
          cases htarget
      · exact h.others (fun heq => hj (Option.some.inj heq)) (s.setPhase_of_ne _ (Ne.symm hj))
          fun _ _ _ hcurrent => hcurrent

/-! ## Runs without a call -/

/-- The state with a worker that has made no call; the tokens do not matter. -/
def HandoffState.without (s : HandoffState ι σ) (i : ι)
    (tokens : List (StoredHumanHandoff × JsString)) : HandoffState ι σ :=
  { s.setPhase i .idle with tokens := tokens }

theorem without_phase {j : ι} (s : HandoffState ι σ)
    (tokens : List (StoredHumanHandoff × JsString)) (hj : j ≠ i) :
    (s.without i tokens).phase j = s.phase j := s.setPhase_of_ne _ hj

theorem setPhase_without {j : ι} (s : HandoffState ι σ)
    (tokens : List (StoredHumanHandoff × JsString)) (phase : Phase) (hj : j ≠ i) :
    (s.without i tokens).setPhase j phase = (s.setPhase j phase).without i tokens := by
  simp only [HandoffState.without, HandoffState.setPhase, Function.update_comm hj]

theorem read_without {j : ι} (s : HandoffState ι σ)
    (tokens : List (StoredHumanHandoff × JsString)) (hj : j ≠ i) (call : HandoffCall)
    (handoffId accessTokenDigest : JsString) (checkedAt : Instant) :
    (s.without i tokens).read store j call handoffId accessTokenDigest checkedAt =
      (s.read store j call handoffId accessTokenDigest checkedAt).without i tokens := by
  simp only [HandoffState.without, HandoffState.read, HandoffState.setPhase,
    Function.update_comm hj]

theorem update_without {j : ι} (s : HandoffState ι σ)
    (tokens : List (StoredHumanHandoff × JsString)) (hj : j ≠ i) (task : UpdateTask)
    (previous next : StoredHumanHandoff) (checkedAt : Instant) :
    (s.without i tokens).update store j task previous next checkedAt =
      (s.update store j task previous next checkedAt).without i tokens := by
  have hcomm := fun phase => Function.update_comm (f := s.phase) hj phase Phase.idle
  by_cases h : (store.update previous next checkedAt s.now s.store).1 = .ok true
  · rw [(s.without i tokens).update_of_true store j task h, s.update_of_true store j task h]
    simp only [HandoffState.without, HandoffState.setPhase, hcomm]
  · rw [(s.without i tokens).update_of_not_true store j task h, s.update_of_not_true store j task h]
    simp only [HandoffState.without, HandoffState.setPhase, hcomm]

theorem handoffStep_without {event : HandoffEvent ι} (hworker : event.worker ≠ some i)
    (tokens : List (StoredHumanHandoff × JsString))
    (hstep : handoffStep service store s event = some t) :
    ∃ tokens', handoffStep service store (s.without i tokens) event =
      some (t.without i tokens') := by
  have hother : ∀ {j}, event.worker = some j → j ≠ i := by
    rintro j hevent rfl
    exact hworker hevent
  cases event with
  | tick time =>
      simp only [handoffStep, Option.ite_none_right_eq_some, Option.some.injEq] at hstep
      obtain ⟨hle, rfl⟩ := hstep
      exact ⟨tokens, if_pos hle⟩
  | start requirement input started handoffId accessTokenDigest checkedAt sentAt =>
      simp only [handoffStep, Option.ite_none_right_eq_some] at hstep
      obtain ⟨hcan, hstep⟩ := hstep
      refine ⟨tokens, (if_pos hcan).trans ?_⟩
      split at hstep <;> cases hstep <;> rfl
  | call j call handoffId accessTokenDigest =>
      have hj := hother rfl
      simp only [handoffStep, without_phase s tokens hj] at hstep ⊢
      split at hstep <;> cases hstep
      exact ⟨tokens, congrArg some (setPhase_without s tokens _ hj)⟩
  | execute j =>
      have hj := hother rfl
      simp only [handoffStep, without_phase s tokens hj] at hstep ⊢
      split at hstep <;> cases hstep
      · exact ⟨tokens, congrArg some (read_without s tokens hj ..)⟩
      · exact ⟨tokens, congrArg some (update_without s tokens hj ..)⟩
  | resume j =>
      have hj := hother rfl
      simp only [handoffStep, without_phase s tokens hj] at hstep ⊢
      split at hstep <;> cases hstep
      all_goals exact ⟨tokens, congrArg some (setPhase_without s tokens _ hj)⟩
  | provider j answer =>
      have hj := hother rfl
      simp only [handoffStep, without_phase s tokens hj] at hstep ⊢
      split at hstep <;> cases hstep
      exact ⟨tokens, congrArg some (setPhase_without s tokens _ hj)⟩
  | requirement j found =>
      have hj := hother rfl
      simp only [handoffStep, without_phase s tokens hj] at hstep ⊢
      split at hstep <;> cases hstep
      exact ⟨tokens, congrArg some (setPhase_without s tokens _ hj)⟩
  | protect j completion =>
      have hj := hother rfl
      simp only [handoffStep, without_phase s tokens hj] at hstep ⊢
      split at hstep
      · simp only [Option.ite_none_right_eq_some, Option.some.injEq] at hstep ⊢
        obtain ⟨hsealed, rfl⟩ := hstep
        exact ⟨tokens, hsealed, setPhase_without s tokens _ hj⟩
      · cases hstep
  | satisfy j token =>
      have hj := hother rfl
      simp only [handoffStep, without_phase s tokens hj] at hstep ⊢
      split at hstep <;> cases hstep
      next claimed hphase =>
        refine ⟨(token.map fun token => (claimed, token)).toList ++ tokens, congrArg some ?_⟩
        rw [setPhase_without s tokens _ hj]
        rfl

/-- A step of the call that does nothing leads to the same state without the call. -/
theorem without_of_effects_nil (hstore : KeepsHandoffs store strict valid)
    (hinvariant : HandoffInvariant service store strict valid s) {event : HandoffEvent ι}
    (hworker : event.worker = some i)
    (heffects : s.effects service store asks i event = [])
    (hstep : handoffStep service store s event = some t)
    (tokens : List (StoredHumanHandoff × JsString)) :
    t.without i tokens = s.without i tokens := by
  have hwritten : ∀ {j}, event = .execute j → s.written store i = [] := by
    rintro j rfl
    simp only [HandoffState.effects, hworker, if_true, List.append_eq_nil_iff,
      List.map_eq_nil_iff] at heffects
    exact heffects.1
  cases handoffStep_events hstep with
  | tick | refused | create => cases hworker
  | @move _ j phase hevent hmoves =>
      cases hevent.symm.trans hworker
      simp only [HandoffState.without, HandoffState.setPhase, Function.update_idem]
  | read j call handoffId accessTokenDigest checkedAt hphase =>
      cases hworker
      obtain ⟨-, hfetch⟩ := hstore.fetch handoffId accessTokenDigest checkedAt hinvariant.valid
      have hnone := hwritten rfl
      obtain ⟨fetched, after, hreply⟩ :
          ∃ fetched after, store.fetch handoffId accessTokenDigest checkedAt s.now s.store =
            (fetched, after) := ⟨_, _, rfl⟩
      simp only [HandoffState.written, hphase, hreply] at hnone
      rw [hreply] at hfetch
      have hsame : after = s.store := by
        cases fetched with
        | unknown | found _ | expiring _ | failed _ => exact hfetch.1
        | expired record => cases hnone
      simp only [HandoffState.without, HandoffState.read, HandoffState.setPhase, hreply, hnone,
        hsame, List.nil_append, Function.update_idem]
  | update j task previous next checkedAt hphase =>
      cases hworker
      have hok := hinvariant.phases i
      rw [hphase] at hok
      obtain ⟨-, hwrites⟩ := hstore.update checkedAt hinvariant.valid hok.held.nonterminal
        hok.succeeds fun current hstored hversion =>
          hinvariant.versions.eq_stored hok.held.logged hstored hversion
      have hnone := hwritten rfl
      rcases hwrites with ⟨htrue, -, -⟩ | ⟨hfailed, hsame⟩
      · simp only [HandoffState.written, hphase, htrue, if_true] at hnone
        cases hnone
      · rw [s.update_of_not_true store i task hfailed]
        simp only [HandoffState.without, HandoffState.setPhase, hsame, Function.update_idem]
  | satisfied j claimed token hphase =>
      cases hworker
      simp only [HandoffState.without, HandoffState.setPhase, Function.update_idem]

/-- A run of which a call has no effect goes as well without the call. -/
theorem run_without (hstore : KeepsHandoffs store strict valid)
    {events : List (HandoffEvent ι)} {now : Instant}
    (heffects : (handoffMachine service store).trace
      (HandoffState.effects service store asks i) (.initial store now) events = [])
    (hrun : (handoffMachine service store).run (.initial store now) events = some s) :
    ∃ t, (handoffMachine service store).run (.initial store now)
        (events.filter fun event => decide (event.worker ≠ some i)) = some t ∧
      t.store = s.store ∧ ∀ j ≠ i, t.phase j = s.phase j := by
  have hinitial : HandoffState.initial (ι := ι) store now =
      (HandoffState.initial store now).without i [] := by
    have hidle := Function.update_eq_self i fun _ : ι => Phase.idle
    simp only [HandoffState.without, HandoffState.setPhase, HandoffState.initial, hidle]
  obtain ⟨t, hrun', -, tokens, rfl⟩ := (handoffMachine service store).run_filter
    (R := fun s t => HandoffInvariant service store strict valid s ∧
      ∃ tokens, t = s.without i tokens)
    (fun {s _ event s'} hrelated _ hkeep hstep => by
      obtain ⟨hinvariant, tokens, rfl⟩ := hrelated
      obtain ⟨tokens', hstep'⟩ :=
        handoffStep_without (of_decide_eq_true hkeep) tokens hstep
      exact ⟨_, hstep', (hinvariant.step hstore (handoffStep_cases hstep)).2, tokens', rfl⟩)
    (fun {s _ event s'} hrelated heffects hdropped hstep => by
      obtain ⟨hinvariant, tokens, rfl⟩ := hrelated
      have hworker := not_not.mp (of_decide_eq_false hdropped)
      exact ⟨(hinvariant.step hstore (handoffStep_cases hstep)).2, tokens,
        (without_of_effects_nil hstore hinvariant hworker heffects hstep tokens).symm⟩)
    ⟨.initial hstore now, [], hinitial⟩
    ((handoffMachine service store).along_of_trace heffects) hrun
  exact ⟨_, hrun', rfl, fun j hj => without_phase s tokens hj⟩

/-- In every run whose steps meet the guard, a call of `cancel` that reports `false` has
asked no adapter and written no record, and the other calls go as they go without it. -/
def HarmlessRuns (ι : Type) [DecidableEq ι] {σ : Type} (service : HumanHandoffService)
    (store : HandoffStore σ) (asks : StoredHumanHandoff → Bool)
    (guard : HandoffState ι σ → HandoffEvent ι → Prop) : Prop :=
  ∀ {now events} {s : HandoffState ι σ},
    (handoffMachine service store).Along guard (.initial store now) events →
    (handoffMachine service store).run (.initial store now) events = some s →
    ∀ {i handoffId}, s.phase i = .done .cancel handoffId (.cancelled false) →
      (handoffMachine service store).trace (HandoffState.effects service store asks i)
        (.initial store now) events = [] ∧
      ∃ t, (handoffMachine service store).run (.initial store now)
          (events.filter fun event => decide (event.worker ≠ some i)) = some t ∧
        t.store = s.store ∧ ∀ j ≠ i, t.phase j = s.phase j

theorem harmlessRuns_of_keeps (hstore : KeepsHandoffs store strict valid) :
    HarmlessRuns ι service store asks (CancelsAlone store asks) := by
  intro now events s hguard hrun i handoffId hdone
  have hinvariant := (handoffMachine service store).invariant_trace
    (I := fun u effects => HandoffInvariant service store strict valid u ∧
      CancelInvariant asks store i u effects)
    (fun u event v effects hu halone hstep =>
      ⟨(hu.1.step hstore (handoffStep_cases hstep)).2, hu.2.step hstore hu.1 halone hstep⟩)
    ⟨.initial hstore now, ⟨rfl, fun htarget => nomatch htarget⟩⟩ hguard hrun
  have hquiet := hinvariant.2.quiet
  rw [hdone] at hquiet
  have heffects := hquiet rfl
  exact ⟨heffects, run_without hstore heffects hrun⟩

end Runs

/-- A cancellation that reports false has done nothing, in each of the stores. -/
structure CancelsHarmless (ι : Type) [DecidableEq ι] (service : HumanHandoffService)
    (asks : StoredHumanHandoff → Bool)
    (guard : ∀ {σ}, HandoffStore σ → HandoffState ι σ → HandoffEvent ι → Prop) : Prop where
  inMemory : HarmlessRuns ι service inMemoryHandoffStore asks (guard inMemoryHandoffStore)
  redis : ∀ keyPrefix, HarmlessRuns ι service (redisHandoffStore keyPrefix) asks
    (guard (redisHandoffStore keyPrefix))
  postgres : HarmlessRuns ι service postgresHandoffStore asks (guard postgresHandoffStore)

/-! ## A session that is cancelled in vain -/

namespace LostCancel

/-- Between the read and the write of the cancellation `false` the poll `true` makes its claim. -/
def events : List (HandoffEvent Bool) :=
  LostFailure.events.take 1 ++
    [.call false .cancel (js "h") (js "a"), .execute false, .resume false,
      .call true .poll (js "h") (js "a"), .execute true, .resume true, .execute true,
      .resume false, .execute false, .resume false]

end LostCancel

theorem session_cancelled_in_vain :
    ∃ service asks, ¬ CancelsHarmless Bool service asks fun _ _ _ => True := by
  refine ⟨LostFailure.service, fun _ => true, fun h => ?_⟩
  let M := handoffMachine (ι := Bool) LostFailure.service inMemoryHandoffStore
  let start := HandoffState.initial (ι := Bool) inMemoryHandoffStore 0
  let note := HandoffState.effects LostFailure.service inMemoryHandoffStore (fun _ => true) false
  have hobserved : (M.run start LostCancel.events).map
      (fun s => LostFailure.outcome? (s.phase false)) =
        some (some (.cancel, js "h", .cancelled false)) := by decide +kernel
  have hasked : (M.trace note start LostCancel.events).length = 1 := by decide +kernel
  obtain ⟨s, hrun, hs⟩ := Option.map_eq_some_iff.mp hobserved
  have hnone := (h.inMemory (M.along_true _ _) hrun (LostFailure.eq_done hs)).1
  exact absurd (hasked.symm.trans (congrArg List.length hnone)) (by decide)

theorem cancels_harmless (ι : Type) [DecidableEq ι] (service : HumanHandoffService)
    (asks : StoredHumanHandoff → Bool) :
    CancelsHarmless ι service asks fun store => CancelsAlone store asks where
  inMemory := harmlessRuns_of_keeps inMemory_keepsHandoffs
  redis keyPrefix := harmlessRuns_of_keeps (redis_keepsHandoffs keyPrefix)
  postgres := harmlessRuns_of_keeps postgres_keepsHandoffs

end X424
