import X424.Foundation.Machine
import X424.RequirementCommands

/-!
# Requirements belong to tenants

Any number of calls of any tenants are made on one requirement store, and the
commands of one call may come between those of another.  A tenant reads and
deletes only what it has put, and notices nothing of the calls of others.
-/

namespace X424

open Foundation

/-! ## Runs of calls -/

inductive CallPhase where
  | notMade
  | between (command : SecondCommand)
  | returned (reply : RequirementReply) (time : Instant)
  deriving DecidableEq

structure RequirementRun (ι ρ : Type) where
  clock : Instant
  store : ρ
  phase : ι → CallPhase
  log : List (ι × RequirementReply)

inductive CallEvent (ι : Type) where
  | make (i : ι) (now : Instant)
  | finish (i : ι) (readAt now : Instant)
  deriving DecidableEq, Repr

def CallEvent.call {ι : Type} : CallEvent ι → ι
  | .make i _ => i
  | .finish i _ _ => i

instance {ρ : Type} (P : RequirementProtocol ρ) (call : RequirementCall) (now : Instant) :
    Decidable (P.Timely call now) :=
  inferInstanceAs (Decidable (call.calledAt ≤ now ∧ (P.prompt → call.calledAt = now)))

namespace RequirementRun

variable {ι ρ : Type} [DecidableEq ι] (P : RequirementProtocol ρ)

def initial (time : Instant) : RequirementRun ι ρ where
  clock := time
  store := P.empty
  phase _ := .notMade
  log := []

def returns (run : RequirementRun ι ρ) (i : ι) (now : Instant) (next : RequirementReply × ρ) :
    RequirementRun ι ρ where
  clock := now
  store := next.2
  phase := Function.update run.phase i (.returned next.1 now)
  log := (i, next.1) :: run.log

def make (call : RequirementCall) (i : ι) (now : Instant) (run : RequirementRun ι ρ) :
    RequirementRun ι ρ :=
  match P.first call now run.store with
  | (.inl reply, store) => run.returns i now (reply, store)
  | (.inr command, store) =>
      { run with
        clock := now
        store := store
        phase := Function.update run.phase i (.between command) }

def call (call : RequirementCall) (i : ι) (now : Instant) (run : RequirementRun ι ρ) :
    RequirementRun ι ρ :=
  match run.phase i with
  | .notMade => run.make P call i now
  | _ => { run with clock := now }

def finish (i : ι) (readAt now : Instant) (run : RequirementRun ι ρ) : RequirementRun ι ρ :=
  match run.phase i with
  | .between command => run.returns i now (P.second command readAt now run.store)
  | _ => { run with clock := now }

end RequirementRun

def requirementMachine {ι ρ : Type} [DecidableEq ι] (P : RequirementProtocol ρ)
    (calls : ι → RequirementCall) : Machine (RequirementRun ι ρ) (CallEvent ι) where
  step run event :=
    match event with
    | .make i now =>
        if run.clock ≤ now ∧ P.Timely (calls i) now then some (run.call P (calls i) i now)
        else none
    | .finish i readAt now =>
        if run.clock ≤ now ∧ readAt ≤ now then some (run.finish P i readAt now) else none

/-! ## What the log says -/

section Log

variable {ι : Type} (calls : ι → RequirementCall)

def Puts (stored : StoredRequirement) (entry : ι × RequirementReply) : Prop :=
  (calls entry.1).request = .putFor stored.requirement stored.tenantId ∧
    entry.2 = .stored (.ok ())

def RemovesFor (dependencyId tenantId : JsString) (entry : ι × RequirementReply) : Prop :=
  (calls entry.1).request = .deleteForTenant dependencyId tenantId ∧
    entry.2 = .deletedForTenant (.ok true)

def Deletes (dependencyId : JsString) (entry : ι × RequirementReply) : Prop :=
  ((calls entry.1).request = .delete dependencyId ∧ entry.2 = .deleted (.ok ())) ∨
    ∃ tenantId, RemovesFor calls dependencyId tenantId entry

/-- It was put, and its id has not been deleted since. -/
def Present (log : List (ι × RequirementReply)) (stored : StoredRequirement) : Prop :=
  ∃ later entry earlier, log = later ++ entry :: earlier ∧ Puts calls stored entry ∧
    ∀ other ∈ later, ¬ Deletes calls stored.dependencyId other

/-- A tenant is shown only what it has put, what has not been deleted since and
what has not expired. -/
def ReadsOwn (log : List (ι × RequirementReply)) : Prop :=
  ∀ later i requirement earlier dependencyId tenantId,
    log = later ++ (i, .found (.ok (some requirement))) :: earlier →
    (calls i).request = .getForTenant dependencyId tenantId →
    requirement.dependencyId = dependencyId ∧ Present calls earlier ⟨requirement, some tenantId⟩ ∧
      parsedLe requirement.expiresAt (calls i).calledAt = false

def RemovesOwn (log : List (ι × RequirementReply)) : Prop :=
  ∀ entry ∈ log, ∀ dependencyId tenantId, RemovesFor calls dependencyId tenantId entry →
    ∃ requirement, requirement.dependencyId = dependencyId ∧
      ∃ other ∈ log, Puts calls ⟨requirement, some tenantId⟩ other

def RemovesOnce (log : List (ι × RequirementReply)) : Prop :=
  ∀ first ∈ log, ∀ second ∈ log, ∀ dependencyId tenantId other,
    RemovesFor calls dependencyId tenantId first → RemovesFor calls dependencyId other second →
    first.1 = second.1

def foreign (tenantId : JsString) (i : ι) : Bool :=
  (calls i).request.tenant.any fun owner => owner ≠ tenantId

end Log

def PutsOnce {ι ρ : Type} (P : RequirementProtocol ρ) (calls : ι → RequirementCall)
    (run : RequirementRun ι ρ) : CallEvent ι → Prop
  | .make i now =>
      run.phase i = .notMade → ∀ requirement tenantId,
        (calls i).request = .putFor requirement tenantId →
        (∀ entry ∈ run.log, ∀ stored, Puts calls stored entry →
          stored.dependencyId ≠ requirement.dependencyId) ∧ P.hasRoom now run.store
  | .finish _ _ _ => True

/-- The requirement that a tenant's call deletes expires while the call goes on,
and the call only differs in whether it still finds it. -/
def ExpiredMeanwhile {ι ρ : Type} (calls : ι → RequirementCall) (run : RequirementRun ι ρ) (i : ι)
    (other : CallPhase) : Prop :=
  ∃ (removed removed' : Bool) (time : Instant) (stored : StoredRequirement),
    run.phase i = .returned (.deletedForTenant (.ok removed)) time ∧
    other = .returned (.deletedForTenant (.ok removed')) time ∧
    (∃ entry ∈ run.log, Puts calls stored entry) ∧
    stored.dependencyId = (calls i).request.dependencyId ∧
    stored.expired (calls i).calledAt = false ∧ stored.expired time

structure TenantsIsolated (ι : Type) [DecidableEq ι] {ρ : Type} (P : RequirementProtocol ρ)
    (excused : (ι → RequirementCall) → RequirementRun ι ρ → ι → CallPhase → Prop) : Prop where
  readsOwn : ∀ calls time (run : RequirementRun ι ρ),
    (requirementMachine P calls).Reaches (PutsOnce P calls) (.initial P time) run →
    ReadsOwn calls run.log
  removesOwn : ∀ calls time (run : RequirementRun ι ρ),
    (requirementMachine P calls).Reaches (PutsOnce P calls) (.initial P time) run →
    RemovesOwn calls run.log
  removesOnce : ∀ calls time (run : RequirementRun ι ρ),
    (requirementMachine P calls).Reaches (PutsOnce P calls) (.initial P time) run →
    RemovesOnce calls run.log
  /-- Without the calls of the other tenants, a tenant's calls go the same way. -/
  othersUnseen : ∀ calls time tenantId events (run : RequirementRun ι ρ),
    (requirementMachine P calls).Along (PutsOnce P calls) (.initial P time) events →
    (requirementMachine P calls).run (.initial P time) events = some run →
    ∃ alone, (requirementMachine P calls).run (.initial P time)
        (events.filter fun event => !foreign calls tenantId event.call) = some alone ∧
      ∀ i, (calls i).request.tenant = some tenantId →
        alone.phase i = run.phase i ∨ excused calls run i (alone.phase i)

/-! ## What a command adds to the log -/

section LogLemmas

variable {ι : Type} {calls : ι → RequirementCall} {log : List (ι × RequirementReply)}
  {entry : ι × RequirementReply} {stored : StoredRequirement}

theorem Present.cons (h : Present calls log stored)
    (hkept : ¬ Deletes calls stored.dependencyId entry) : Present calls (entry :: log) stored := by
  obtain ⟨later, put, earlier, rfl, hput, hlater⟩ := h
  refine ⟨entry :: later, put, earlier, rfl, hput, fun other hother => ?_⟩
  rcases List.mem_cons.mp hother with rfl | hother
  · exact hkept
  · exact hlater other hother

theorem Present.put (h : Puts calls stored entry) : Present calls (entry :: log) stored :=
  ⟨[], entry, log, rfl, h, fun _ hother => nomatch hother⟩

theorem Present.mem (h : Present calls log stored) : ∃ put ∈ log, Puts calls stored put := by
  obtain ⟨later, put, earlier, rfl, hput, _⟩ := h
  exact ⟨put, List.mem_append_right _ List.mem_cons_self, hput⟩

theorem Puts.inj {other : StoredRequirement} (h : Puts calls stored entry)
    (hother : Puts calls other entry) : stored = other := by
  have heq := h.1.symm.trans hother.1
  obtain ⟨requirement, tenantId⟩ := stored
  obtain ⟨requirement', tenantId'⟩ := other
  simpa using heq

end LogLemmas

structure LogSound {ι ρ : Type} (calls : ι → RequirementCall)
    (held : ρ → JsString → Option StoredRequirement) (valid : ρ → Prop) (store : ρ)
    (log : List (ι × RequirementReply)) : Prop where
  valid : valid store
  present : ∀ {id stored}, held store id = some stored → Present calls log stored
  unique : ∀ {stored other entry put}, entry ∈ log → put ∈ log → Puts calls stored entry →
    Puts calls other put → stored.dependencyId = other.dependencyId → stored = other
  removed : ∀ {entry dependencyId tenantId}, entry ∈ log →
    RemovesFor calls dependencyId tenantId entry → held store dependencyId = none ∧
      ∃ requirement, requirement.dependencyId = dependencyId ∧
        ∃ other ∈ log, Puts calls ⟨requirement, some tenantId⟩ other
  removesOnce : RemovesOnce calls log
  readsOwn : ReadsOwn calls log

/-- What the answer of a command says is what the command found and did. -/
structure Explains {ι ρ : Type} (calls : ι → RequirementCall)
    (held : ρ → JsString → Option StoredRequirement) (store : ρ)
    (log : List (ι × RequirementReply)) (dependencyId : JsString) (effect : CommandEffect)
    (entry : ι × RequirementReply) : Prop where
  put : ∀ {stored}, Puts calls stored entry ↔ effect = .store stored
  fresh : ∀ {stored}, effect = .store stored → stored.dependencyId = dependencyId ∧
    ∀ other ∈ log, ∀ previous, Puts calls previous other →
      previous.dependencyId ≠ stored.dependencyId
  deleted : ∀ {id}, Deletes calls id entry → id = dependencyId ∧ effect = .drop
  removed : ∀ {id tenantId}, RemovesFor calls id tenantId entry →
    ∃ stored, held store id = some stored ∧ stored.tenantId = some tenantId
  found : ∀ {id tenantId requirement}, (calls entry.1).request = .getForTenant id tenantId →
    entry.2 = .found (.ok (some requirement)) →
    held store id = some ⟨requirement, some tenantId⟩ ∧
      parsedLe requirement.expiresAt (calls entry.1).calledAt = false

section Extend

variable {ι ρ : Type} {calls : ι → RequirementCall}
  {held : ρ → JsString → Option StoredRequirement} {alive : Instant → StoredRequirement → Bool}
  {valid : ρ → Prop} {store next : ρ} {log : List (ι × RequirementReply)} {now : Instant}
  {dependencyId : JsString} {effect : CommandEffect} {entry : ι × RequirementReply}

theorem Deletes.of_removes {tenantId : JsString}
    (h : RemovesFor calls dependencyId tenantId entry) :
    Deletes calls dependencyId entry := Or.inr ⟨tenantId, h⟩

theorem LogSound.keep (h : LogSound calls held valid store log) (hvalid : valid next)
    (happlied : Applied held alive now dependencyId store .keep next) :
    LogSound calls held valid next log := by
  have hdrops : ∀ id, DropsAt held store next id := by
    intro id
    by_cases hid : id = dependencyId
    · rw [hid]
      exact happlied.own.1
    · exact (happlied.others id hid).1
  refine { h with valid := hvalid, present := ?_, removed := ?_ }
  · intro id stored hstored
    rcases hdrops id with hsame | hnone
    · exact h.present (hsame.symm.trans hstored)
    · exact nomatch hnone.symm.trans hstored
  · intro entry id tenantId hentry hremoves
    obtain ⟨hnone, howner⟩ := h.removed hentry hremoves
    exact ⟨(hdrops id).elim (fun hsame => hsame.trans hnone) fun hdropped => hdropped, howner⟩

theorem LogSound.answer (h : LogSound calls held valid store log)
    (hnamed : ∀ {id stored}, held store id = some stored → stored.dependencyId = id)
    (hvalid : valid next) (happlied : Applied held alive now dependencyId store effect next)
    (hentry : Explains calls held store log dependencyId effect entry) :
    LogSound calls held valid next (entry :: log) where
  valid := hvalid
  present := by
    intro id stored hstored
    by_cases hid : id = dependencyId
    · subst hid
      cases effect with
      | keep =>
          have hnot : ¬ Deletes calls stored.dependencyId entry := fun hdeletes =>
            nomatch (hentry.deleted hdeletes).2
          rcases happlied.own.1 with hsame | hnone
          · exact (h.present (hsame.symm.trans hstored)).cons hnot
          · exact nomatch hnone.symm.trans hstored
      | drop => exact nomatch (show held next id = none from happlied.own).symm.trans hstored
      | store put =>
          have heq : put = stored :=
            Option.some.inj ((show held next id = some put from happlied.own).symm.trans hstored)
          exact .put (hentry.put.mpr (congrArg CommandEffect.store heq))
    · rcases (happlied.others id hid).1 with hsame | hnone
      · have hbefore := hsame.symm.trans hstored
        refine (h.present hbefore).cons fun hdeletes => hid ?_
        rw [← hnamed hbefore]
        exact (hentry.deleted hdeletes).1
      · exact nomatch hnone.symm.trans hstored
  unique := by
    have hfresh : ∀ {stored other put}, put ∈ log → Puts calls stored entry →
        Puts calls other put → stored.dependencyId ≠ other.dependencyId := by
      intro stored other put hmem hstored hother heq
      exact (hentry.fresh (hentry.put.mp hstored)).2 put hmem other hother heq.symm
    intro stored other first second hfirst hsecond hstored hother heq
    rcases List.mem_cons.mp hfirst with rfl | hinFirst
    · rcases List.mem_cons.mp hsecond with rfl | hinSecond
      · exact hstored.inj hother
      · exact absurd heq (hfresh hinSecond hstored hother)
    · rcases List.mem_cons.mp hsecond with rfl | hinSecond
      · exact absurd heq.symm (hfresh hinFirst hother hstored)
      · exact h.unique hinFirst hinSecond hstored hother heq
  removed := by
    intro other id tenantId hother hremoves
    rcases List.mem_cons.mp hother with rfl | hother
    · obtain ⟨rfl, rfl⟩ := hentry.deleted (.of_removes hremoves)
      obtain ⟨stored, hstored, howner⟩ := hentry.removed hremoves
      obtain ⟨put, hput, hputs⟩ := (h.present hstored).mem
      refine ⟨happlied.own, stored.requirement, hnamed hstored, put,
        List.mem_cons_of_mem _ hput, ?_⟩
      rw [← howner]
      exact hputs
    · obtain ⟨hnone, requirement, hid, put, hput, hputs⟩ := h.removed hother hremoves
      refine ⟨?_, requirement, hid, put, List.mem_cons_of_mem _ hput, hputs⟩
      by_cases heq : id = dependencyId
      · subst heq
        cases effect with
        | keep =>
            exact happlied.own.1.elim (fun hsame => hsame.trans hnone) fun hdropped => hdropped
        | drop => exact happlied.own
        | store stored =>
            obtain ⟨hstored, hfresh⟩ := hentry.fresh rfl
            exact absurd (hid.trans hstored.symm) (hfresh put hput _ hputs)
      · exact (happlied.others id heq).1.elim (fun hsame => hsame.trans hnone)
          fun hdropped => hdropped
  removesOnce := by
    have hnot : ∀ {other id tenantId owner}, other ∈ log → RemovesFor calls id tenantId other →
        ¬ RemovesFor calls id owner entry := by
      intro other id tenantId owner hother hremoves hagain
      obtain ⟨stored, hstored, _⟩ := hentry.removed hagain
      exact nomatch (h.removed hother hremoves).1.symm.trans hstored
    intro first hfirst second hsecond id tenantId owner hremovesFirst hremovesSecond
    rcases List.mem_cons.mp hfirst with rfl | hinFirst
    · rcases List.mem_cons.mp hsecond with rfl | hinSecond
      · rfl
      · exact absurd hremovesFirst (hnot hinSecond hremovesSecond)
    · rcases List.mem_cons.mp hsecond with rfl | hinSecond
      · exact absurd hremovesSecond (hnot hinFirst hremovesFirst)
      · exact h.removesOnce first hinFirst second hinSecond id tenantId owner hremovesFirst
          hremovesSecond
  readsOwn := by
    intro later i requirement earlier id tenantId hlog hrequest
    rcases List.cons_eq_append_iff.mp hlog with ⟨rfl, hhead⟩ | ⟨rest, rfl, hrest⟩
    · obtain ⟨rfl, rfl⟩ := List.cons.inj hhead
      obtain ⟨hheld, hcurrent⟩ := hentry.found hrequest rfl
      exact ⟨hnamed hheld, h.present hheld, hcurrent⟩
    · exact h.readsOwn rest i requirement earlier id tenantId hrest hrequest

end Extend

/-! ## Every run -/

section Runs

variable {ι ρ : Type} {calls : ι → RequirementCall}
  {held : ρ → JsString → Option StoredRequirement} {alive : Instant → StoredRequirement → Bool}
  {P : RequirementProtocol ρ} {policy : CommandPolicy} {valid : ρ → Prop} {store : ρ}
  {log : List (ι × RequirementReply)} {now : Instant} {i : ι}

structure ReadBy (P : RequirementProtocol ρ) (calls : ι → RequirementCall)
    (log : List (ι × RequirementReply)) (i : ι) (command : SecondCommand)
    (stored : StoredRequirement) : Prop where
  named : stored.dependencyId = command.dependencyId
  asked : command.dependencyId = (calls i).request.dependencyId
  put : ∃ entry ∈ log, Puts calls stored entry
  owner : ∀ tenantId, (calls i).request.tenant = some tenantId → stored.tenantId = some tenantId
  current : P.prompt → stored.expired (calls i).calledAt = false
  remove : ∀ dependencyId read, command = .remove dependencyId read →
    ∃ tenantId, (calls i).request = .deleteForTenant dependencyId tenantId

theorem ReadBy.cons {command : SecondCommand} {stored : StoredRequirement}
    {entry : ι × RequirementReply} (h : ReadBy P calls log i command stored) :
    ReadBy P calls (entry :: log) i command stored := by
  obtain ⟨put, hput, hputs⟩ := h.put
  exact { h with put := ⟨put, List.mem_cons_of_mem _ hput, hputs⟩ }

theorem LogSound.planned (laws : CommandLaws held alive P policy valid)
    (h : LogSound calls held valid store log) (htimely : P.Timely (calls i) now)
    (hfresh : ∀ requirement tenantId, (calls i).request = .putFor requirement tenantId →
      ∀ entry ∈ log, ∀ stored, Puts calls stored entry →
        stored.dependencyId ≠ requirement.dependencyId)
    {answer : RequirementReply ⊕ SecondCommand} {effect : CommandEffect}
    (hplanned : policy.Planned (calls i)
      (liveRequirement held alive now store (calls i).request.dependencyId) answer effect) :
    (∀ reply, answer = .inl reply →
      Explains calls held store log (calls i).request.dependencyId effect (i, reply)) ∧
    ∀ command, answer = .inr command → effect = .keep ∧
      ∃ stored, ReadBy P calls log i command stored := by
  have hlive : ∀ {stored}, liveRequirement held alive now store (calls i).request.dependencyId =
      some stored → held store (calls i).request.dependencyId = some stored ∧
        alive now stored := by
    intro stored hstored
    exact Option.filter_eq_some_iff.mp hstored
  cases hplanned with
  | put requirement tenantId hrequest =>
      refine ⟨?_, nofun⟩
      rintro reply ⟨⟩
      constructor
      · rintro ⟨requirement', tenantId'⟩
        simp only [Puts, hrequest, RequirementRequest.putFor.injEq, and_true,
          CommandEffect.store.injEq, StoredRequirement.mk.injEq]
      · rintro stored ⟨⟩
        exact ⟨by rw [hrequest]; rfl, hfresh requirement tenantId hrequest⟩
      · rintro id (⟨_, h⟩ | ⟨_, _, h⟩) <;> exact nomatch h
      · rintro id owner ⟨_, h⟩
        exact nomatch h
      · rintro id owner found _ h
        exact nomatch h
  | shown stored hfound hstale howner =>
      refine ⟨?_, nofun⟩
      rintro reply ⟨⟩
      obtain ⟨hheld, halive⟩ := hlive hfound
      constructor
      · refine fun {other} => ⟨fun h => (nomatch h.2), fun h => (nomatch h)⟩
      · exact fun h => nomatch h
      · rintro id (⟨_, h⟩ | ⟨_, _, h⟩) <;> exact nomatch h
      · rintro id owner ⟨_, h⟩
        exact nomatch h
      · intro id owner requirement hrequest hreply
        have htenant : stored.tenantId = some owner := howner owner (by rw [hrequest]; rfl)
        have hid : (calls i).request.dependencyId = id := by rw [hrequest]; rfl
        rw [hid] at hheld
        obtain rfl : stored.requirement = requirement := by simpa using hreply
        refine ⟨by rw [hheld, ← htenant], ?_⟩
        exact laws.unexpired h.valid hheld htimely.1 halive hstale
  | delete dependencyId hrequest =>
      refine ⟨?_, nofun⟩
      rintro reply ⟨⟩
      constructor
      · refine fun {other} => ⟨fun h => (nomatch h.2), fun h => (nomatch h)⟩
      · exact fun h => nomatch h
      · rintro id (⟨h, _⟩ | ⟨_, _, h⟩)
        · have hid := hrequest.symm.trans h
          simp only [RequirementRequest.delete.injEq] at hid
          exact ⟨by rw [hrequest, ← hid]; rfl, rfl⟩
        · exact nomatch h
      · rintro id owner ⟨_, h⟩
        exact nomatch h
      · rintro id owner found _ h
        exact nomatch h
  | remove stored dependencyId tenantId hfound hrequest howner =>
      refine ⟨?_, nofun⟩
      rintro reply ⟨⟩
      obtain ⟨hheld, halive⟩ := hlive hfound
      have hask : ∀ {id tenant}, (calls i).request = .deleteForTenant id tenant →
          id = (calls i).request.dependencyId ∧ tenant = tenantId := by
        intro id tenant h
        have heq := h.symm.trans hrequest
        simp only [RequirementRequest.deleteForTenant.injEq] at heq
        exact ⟨by rw [h]; rfl, heq.2⟩
      constructor
      · refine fun {other} => ⟨fun h => (nomatch h.2), fun h => (nomatch h)⟩
      · exact fun h => nomatch h
      · rintro id (⟨_, h⟩ | ⟨_, h, _⟩)
        · exact nomatch h
        · exact ⟨(hask h).1, rfl⟩
      · rintro id tenant ⟨h, _⟩
        obtain ⟨rfl, rfl⟩ := hask h
        exact ⟨stored, hheld, howner⟩
      · rintro id tenant found _ h
        exact nomatch h
  | between stored command hfound hid howner hremove =>
      refine ⟨nofun, ?_⟩
      rintro _ ⟨⟩
      obtain ⟨hheld, halive⟩ := hlive hfound
      refine ⟨rfl, stored, ?_⟩
      exact {
        named := (laws.named h.valid hheld).trans hid.symm
        asked := hid
        put := (h.present hheld).mem
        owner := howner
        current := fun hprompt => by
          have hnow := @CommandLaws.alive_of_prompt _ _ _ _ _ _ laws now stored hprompt
          rw [halive] at hnow
          rw [htimely.2 hprompt]
          simpa using hnow.symm
        remove := hremove }
  | silent reply hsilent =>
      refine ⟨?_, nofun⟩
      rintro reply ⟨⟩
      obtain ⟨hstored, hfound, hdeleted, hremoved⟩ := hsilent
      constructor
      · refine fun {other} => ⟨fun h => absurd h.2 hstored, fun h => (nomatch h)⟩
      · exact fun h => nomatch h
      · rintro id (⟨_, h⟩ | ⟨_, _, h⟩)
        · exact absurd h hdeleted
        · exact absurd h hremoved
      · rintro id owner ⟨_, h⟩
        exact absurd h hremoved
      · rintro id owner requirement _ h
        exact absurd h (hfound requirement)

theorem LogSound.held_eq (laws : CommandLaws held alive P policy valid)
    (h : LogSound calls held valid store log) {command : SecondCommand}
    {stored found : StoredRequirement} (hread : ReadBy P calls log i command stored)
    (hfound : held store command.dependencyId = some found) : found = stored := by
  obtain ⟨put, hput, hputs⟩ := hread.put
  obtain ⟨other, hother, hotherPuts⟩ := (h.present hfound).mem
  exact h.unique hother hput hotherPuts hputs
    ((laws.named h.valid hfound).trans hread.named.symm)

theorem explains_cleanUp {dependencyId : JsString} :
    Explains calls held store log dependencyId .drop (i, .found (.ok none)) := by
  constructor
  · refine fun {other} => ⟨fun h => (nomatch h.2), fun h => (nomatch h)⟩
  · exact fun h => nomatch h
  · rintro id (⟨_, h⟩ | ⟨_, _, h⟩) <;> exact nomatch h
  · rintro id owner ⟨_, h⟩
    exact nomatch h
  · rintro id owner found _ h
    exact nomatch h

theorem LogSound.explains_removal (laws : CommandLaws held alive P policy valid)
    (h : LogSound calls held valid store log) {dependencyId : JsString}
    {read stored : StoredRequirement}
    (hread : ReadBy P calls log i (.remove dependencyId read) stored) {removed : Bool}
    (hheld : removed = true → ∃ found, held store dependencyId = some found) :
    Explains calls held store log dependencyId (if removed then .drop else .keep)
      (i, .deletedForTenant (.ok removed)) := by
  obtain ⟨tenantId, hrequest⟩ := hread.remove dependencyId read rfl
  have hask : ∀ {id tenant}, (calls i).request = .deleteForTenant id tenant →
      id = dependencyId ∧ tenant = tenantId := by
    intro id tenant hother
    simpa only [RequirementRequest.deleteForTenant.injEq] using hother.symm.trans hrequest
  constructor
  · refine fun {other} => ⟨fun h => (nomatch h.2), fun h => ?_⟩
    cases removed <;> exact nomatch h
  · intro other heffect
    cases removed <;> exact nomatch heffect
  · rintro id (⟨_, h⟩ | ⟨_, hother, htrue⟩)
    · exact nomatch h
    · obtain rfl : removed = true := by simpa using htrue
      exact ⟨(hask hother).1, rfl⟩
  · rintro id tenant ⟨hother, htrue⟩
    obtain ⟨found, hfound⟩ := hheld (by simpa using htrue)
    obtain ⟨rfl, rfl⟩ := hask hother
    rw [h.held_eq laws hread hfound] at hfound
    exact ⟨stored, hfound, hread.owner tenant (by rw [hrequest]; rfl)⟩
  · rintro id owner found _ h
    exact nomatch h

theorem found_of_removed {dependencyId : JsString} {removed : Bool}
    {decides : Option StoredRequirement → Bool} (hnone : decides none = false)
    (hremoved : removed = decides (liveRequirement held alive now store dependencyId) ∨
      (P.prompt ∧ removed = true ∧
        ∃ stored, held store dependencyId = some stored ∧ stored.expired now))
    (htrue : removed = true) : ∃ found, held store dependencyId = some found := by
  rcases hremoved with hdecided | ⟨_, _, found, hfound, _⟩
  · cases hlive : liveRequirement held alive now store dependencyId with
    | none =>
        rw [hlive, hnone, htrue] at hdecided
        exact nomatch hdecided
    | some found => exact ⟨found, (Option.filter_eq_some_iff.mp hlive).1⟩
  · exact ⟨found, hfound⟩

theorem LogSound.finished (laws : CommandLaws held alive P policy valid)
    (h : LogSound calls held valid store log) {command : SecondCommand}
    {stored : StoredRequirement} (hread : ReadBy P calls log i command stored)
    (readAt now : Instant) :
    let next := P.second command readAt now store
    valid next.2 ∧ ∃ effect, (∀ stored, effect ≠ .store stored) ∧
      Applied held alive now command.dependencyId store effect next.2 ∧
      Explains calls held store log command.dependencyId effect (i, next.1) := by
  cases command with
  | cleanUp dependencyId =>
      obtain ⟨hreply, hvalid, happlied⟩ := laws.cleanUp dependencyId readAt now h.valid
      refine ⟨hvalid, .drop, nofun, happlied, ?_⟩
      rw [hreply]
      exact explains_cleanUp
  | remove dependencyId read =>
      obtain ⟨decides, hnone, hremove⟩ := laws.remove dependencyId read readAt now
      obtain ⟨removed, hreply, hvalid, happlied, hremoved⟩ := hremove store h.valid
      refine ⟨hvalid, _, fun _ => by cases removed <;> nofun, happlied, ?_⟩
      rw [hreply]
      exact h.explains_removal laws hread (found_of_removed hnone hremoved)

structure RequirementRun.Sound (P : RequirementProtocol ρ) (calls : ι → RequirementCall)
    (held : ρ → JsString → Option StoredRequirement) (valid : ρ → Prop)
    (run : RequirementRun ι ρ) : Prop where
  log : LogSound calls held valid run.store run.log
  between : ∀ {i command}, run.phase i = .between command →
    ∃ stored, ReadBy P calls run.log i command stored

variable [DecidableEq ι] {run next : RequirementRun ι ρ}

omit [DecidableEq ι] in
theorem RequirementRun.Sound.initial (laws : CommandLaws held alive P policy valid)
    (time : Instant) : (RequirementRun.initial (ι := ι) P time).Sound P calls held valid where
  log :=
    { valid := laws.valid_empty
      present := fun h => nomatch (laws.held_empty _).symm.trans h
      unique := fun h => nomatch h
      removed := fun h => nomatch h
      removesOnce := fun _ h => nomatch h
      readsOwn := fun later _ _ _ _ _ h => by cases later <;> exact nomatch h }
  between h := nomatch h

theorem RequirementRun.Sound.returns (laws : CommandLaws held alive P policy valid)
    (h : run.Sound P calls held valid) {reply : RequirementReply × ρ} {dependencyId : JsString}
    {effect : CommandEffect} (hvalid : valid reply.2)
    (happlied : Applied held alive now dependencyId run.store effect reply.2)
    (hexplains : Explains calls held run.store run.log dependencyId effect (i, reply.1)) :
    (run.returns i now reply).Sound P calls held valid where
  log := h.log.answer (laws.named h.log.valid) hvalid happlied hexplains
  between := by
    intro j command hphase
    by_cases hj : j = i
    · subst hj
      exact nomatch (Function.update_self j _ run.phase).symm.trans hphase
    · obtain ⟨stored, hread⟩ := h.between ((Function.update_of_ne hj _ _).symm.trans hphase)
      exact ⟨stored, hread.cons⟩

theorem RequirementRun.Sound.make (laws : CommandLaws held alive P policy valid)
    (h : run.Sound P calls held valid) (htimely : P.Timely (calls i) now)
    (hphase : run.phase i = .notMade) (hguard : PutsOnce P calls run (.make i now)) :
    (run.make P (calls i) i now).Sound P calls held valid := by
  obtain ⟨hanswer, hvalid, happlied⟩ := laws.first h.log.valid htimely
    fun requirement tenantId hrequest => (hguard hphase requirement tenantId hrequest).2
  obtain ⟨hreturns, hbetween⟩ := h.log.planned laws htimely
    (fun requirement tenantId hrequest => (hguard hphase requirement tenantId hrequest).1)
    (CommandPolicy.planned_of_plan policy (calls i) now _)
  rw [← hanswer] at hreturns hbetween
  unfold RequirementRun.make
  rcases hfirst : P.first (calls i) now run.store with ⟨reply | command, store⟩
  · rw [hfirst] at hreturns hvalid happlied
    exact h.returns laws hvalid happlied (hreturns reply rfl)
  · rw [hfirst] at hbetween hvalid happlied
    obtain ⟨heffect, stored, hread⟩ := hbetween command rfl
    rw [heffect] at happlied
    refine ⟨h.log.keep hvalid happlied, fun {j other} hother => ?_⟩
    by_cases hj : j = i
    · subst hj
      obtain rfl : command = other := by
        simpa using (Function.update_self j _ run.phase).symm.trans hother
      exact ⟨stored, hread⟩
    · exact h.between ((Function.update_of_ne hj _ _).symm.trans hother)

omit [DecidableEq ι] in
theorem RequirementRun.Sound.tick (h : run.Sound P calls held valid) (now : Instant) :
    RequirementRun.Sound P calls held valid { run with clock := now } :=
  ⟨h.log, h.between⟩

theorem requirementMachine_step (laws : CommandLaws held alive P policy valid)
    (h : run.Sound P calls held valid) {event : CallEvent ι} (hguard : PutsOnce P calls run event)
    (hstep : (requirementMachine P calls).step run event = some next) :
    next.Sound P calls held valid := by
  cases event with
  | make i now =>
      simp only [requirementMachine] at hstep
      split_ifs at hstep with henabled
      rw [← Option.some.inj hstep, RequirementRun.call]
      cases hphase : run.phase i with
      | notMade => exact h.make laws henabled.2 hphase hguard
      | between command => exact h.tick now
      | returned reply time => exact h.tick now
  | finish i readAt now =>
      simp only [requirementMachine] at hstep
      split_ifs at hstep with henabled
      rw [← Option.some.inj hstep, RequirementRun.finish]
      cases hphase : run.phase i with
      | notMade => exact h.tick now
      | between command =>
          obtain ⟨stored, hread⟩ := h.between hphase
          obtain ⟨hvalid, effect, _, happlied, hexplains⟩ := h.log.finished laws hread readAt now
          exact h.returns laws hvalid happlied hexplains
      | returned reply time => exact h.tick now

theorem RequirementRun.Sound.reached (laws : CommandLaws held alive P policy valid)
    {time : Instant}
    (h : (requirementMachine P calls).Reaches (PutsOnce P calls) (.initial P time) run) :
    run.Sound P calls held valid :=
  h.invariant (fun _ _ _ hsound hguard hstep => requirementMachine_step laws hsound hguard hstep)
    (.initial laws time)

end Runs

/-! ## Without the calls of other tenants -/

def StoredRequirement.visibleTo (tenantId : JsString) (stored : StoredRequirement) : Bool :=
  !stored.tenantId.any fun owner => owner ≠ tenantId

section Stores

variable {ρ : Type} {held : ρ → JsString → Option StoredRequirement}
  {alive : Instant → StoredRequirement → Bool} {tenantId dependencyId : JsString}
  {now : Instant} {store next alone aloneNext : ρ} {effect : CommandEffect}

/-- From `now` on, the second store shows what the first one shows without the
requirements of other tenants. -/
def StoresAgree (held : ρ → JsString → Option StoredRequirement)
    (alive : Instant → StoredRequirement → Bool) (tenantId : JsString) (now : Instant)
    (store alone : ρ) : Prop :=
  ∀ later, now ≤ later → ∀ id, liveRequirement held alive later alone id =
    (liveRequirement held alive later store id).filter (·.visibleTo tenantId)

def HiddenAt (held : ρ → JsString → Option StoredRequirement) (tenantId : JsString) (store : ρ)
    (dependencyId : JsString) : Prop :=
  ∀ stored, held store dependencyId = some stored → stored.visibleTo tenantId = false

theorem HiddenAt.live (h : HiddenAt held tenantId store dependencyId) (later : Instant) :
    (liveRequirement held alive later store dependencyId).filter (·.visibleTo tenantId) = none := by
  rw [Option.filter_eq_none_iff]
  intro stored hstored
  rw [h stored (Option.filter_eq_some_iff.mp hstored).1]
  exact Bool.false_ne_true

theorem HiddenAt.applied (h : HiddenAt held tenantId store dependencyId)
    (happlied : Applied held alive now dependencyId store effect next)
    (hstores : ∀ stored, effect = .store stored → stored.visibleTo tenantId = false) :
    HiddenAt held tenantId next dependencyId := by
  intro stored hstored
  cases effect with
  | keep =>
      rcases happlied.own.1 with hsame | hnone
      · exact h stored (hsame.symm.trans hstored)
      · exact nomatch hnone.symm.trans hstored
  | drop => exact nomatch (show held next dependencyId = none from happlied.own).symm.trans hstored
  | store put =>
      have heq : put = stored := Option.some.inj
        ((show held next dependencyId = some put from happlied.own).symm.trans hstored)
      exact heq ▸ hstores put rfl

theorem filter_of_none {found foundAlone : Option StoredRequirement} (h : found = none)
    (halone : foundAlone = none) : foundAlone = found.filter (·.visibleTo tenantId) := by
  rw [h, halone]
  rfl

theorem StoresAgree.later {time : Instant} (h : StoresAgree held alive tenantId time store alone)
    (hle : time ≤ now) : StoresAgree held alive tenantId now store alone :=
  fun later hlater => h later (Int.le_trans hle hlater)

theorem StoresAgree.applied {aloneEffect : CommandEffect}
    (h : StoresAgree held alive tenantId now store alone)
    (hstore : Applied held alive now dependencyId store effect next)
    (halone : Applied held alive now dependencyId alone aloneEffect aloneNext)
    (hown : ∀ later, now ≤ later → liveRequirement held alive later aloneNext dependencyId =
      (liveRequirement held alive later next dependencyId).filter (·.visibleTo tenantId)) :
    StoresAgree held alive tenantId now next aloneNext := by
  intro later hle id
  by_cases hid : id = dependencyId
  · rw [hid]
    exact hown later hle
  · rw [(hstore.others id hid).2 later hle, (halone.others id hid).2 later hle]
    exact h later hle id

theorem StoresAgree.hidden (h : StoresAgree held alive tenantId now store alone)
    (hhidden : HiddenAt held tenantId store dependencyId)
    (hstore : Applied held alive now dependencyId store effect next)
    (hstores : ∀ stored, effect = .store stored → stored.visibleTo tenantId = false) :
    StoresAgree held alive tenantId now next alone := by
  refine h.applied hstore (.refl alone) fun later hle => ?_
  rw [h later hle, hhidden.live, (hhidden.applied hstore hstores).live]

theorem StoresAgree.hidden_alone (h : StoresAgree held alive tenantId now store alone)
    (hhidden : HiddenAt held tenantId store dependencyId)
    (halone : Applied held alive now dependencyId alone effect aloneNext)
    (hstores : ∀ stored, effect ≠ .store stored) :
    StoresAgree held alive tenantId now store aloneNext := by
  refine h.applied (.refl store) halone fun later hle => ?_
  rw [hhidden.live]
  refine halone.live_none hle hstores ?_
  rw [h later hle, hhidden.live]

theorem StoresAgree.same (h : StoresAgree held alive tenantId now store alone)
    (hstore : Applied held alive now dependencyId store effect next)
    (halone : Applied held alive now dependencyId alone effect aloneNext)
    (hstores : ∀ stored, effect = .store stored → stored.visibleTo tenantId) :
    StoresAgree held alive tenantId now next aloneNext := by
  refine h.applied hstore halone fun later hle => ?_
  cases effect with
  | keep => rw [hstore.own.2 later hle, halone.own.2 later hle, h later hle]
  | drop =>
      rw [liveRequirement, liveRequirement,
        show held aloneNext dependencyId = none from halone.own,
        show held next dependencyId = none from hstore.own]
      rfl
  | store stored =>
      rw [liveRequirement, liveRequirement,
        show held aloneNext dependencyId = some stored from halone.own,
        show held next dependencyId = some stored from hstore.own, Option.filter_some]
      split_ifs
      · rw [Option.filter_some_pos (hstores stored rfl)]
      · rfl

end Stores

section Shadows

variable {ι ρ : Type} [DecidableEq ι] (P : RequirementProtocol ρ) (calls : ι → RequirementCall)
  (held : ρ → JsString → Option StoredRequirement) (alive : Instant → StoredRequirement → Bool)
  (valid : ρ → Prop) (tenantId : JsString)

def PutByOther (log : List (ι × RequirementReply)) (dependencyId : JsString) : Prop :=
  ∃ stored, stored.dependencyId = dependencyId ∧ stored.visibleTo tenantId = false ∧
    ∃ entry ∈ log, Puts calls stored entry

/-- The call goes the same way in both runs, unless the tenant cannot tell: the
requirement it deletes has expired, or it is nobody's call on an id of another
tenant. -/
def CallAgrees (run alone : RequirementRun ι ρ) (i : ι) : Prop :=
  alone.phase i = run.phase i ∨
  (P.prompt ∧ ExpiredMeanwhile calls run i (alone.phase i)) ∨
  ((calls i).request.tenant = none ∧ alone.phase i ≠ .notMade ∧ run.phase i ≠ .notMade ∧
    PutByOther calls tenantId run.log (calls i).request.dependencyId)

/-- The second run is the first one without the calls of other tenants. -/
structure Shadows (run alone : RequirementRun ι ρ) : Prop where
  sound : run.Sound P calls held valid
  soundAlone : alone.Sound P calls held valid
  clock : alone.clock ≤ run.clock
  stores : StoresAgree held alive tenantId run.clock run.store alone.store
  puts : ∀ {entry stored}, entry ∈ alone.log → Puts calls stored entry → entry ∈ run.log
  agrees : ∀ {i}, foreign calls tenantId i = false → CallAgrees P calls tenantId run alone i

variable {P calls held alive valid tenantId} {policy : CommandPolicy}
  {run alone next aloneNext : RequirementRun ι ρ} {i : ι} {now readAt : Instant}

omit [DecidableEq ι] in
theorem CallAgrees.mono {run' alone' : RequirementRun ι ρ} {i : ι}
    (h : CallAgrees P calls tenantId run alone i) (hphase : run'.phase i = run.phase i)
    (halone : alone'.phase i = alone.phase i) (hlog : ∀ entry ∈ run.log, entry ∈ run'.log) :
    CallAgrees P calls tenantId run' alone' i := by
  rcases h with h | ⟨hprompt, removed, removed', time, stored, hrun, hother, ⟨put, hput, hputs⟩,
    hrest⟩ | ⟨htenant, hmadeAlone, hmade, stored, hid, hvisible, put, hput, hputs⟩
  · exact Or.inl (by rw [hphase, halone, h])
  · exact Or.inr (Or.inl ⟨hprompt, removed, removed', time, stored, hphase.trans hrun,
      halone.trans hother, ⟨put, hlog put hput, hputs⟩, hrest⟩)
  · exact Or.inr (Or.inr ⟨htenant, halone ▸ hmadeAlone, hphase ▸ hmade, stored, hid, hvisible,
      put, hlog put hput, hputs⟩)

omit [DecidableEq ι] in
theorem hiddenAt_of_putByOther (laws : CommandLaws held alive P policy valid)
    (h : LogSound calls held valid run.store run.log) {dependencyId : JsString}
    (hother : PutByOther calls tenantId run.log dependencyId) :
    HiddenAt held tenantId run.store dependencyId := by
  intro stored hstored
  obtain ⟨other, hid, hvisible, put, hput, hputs⟩ := hother
  obtain ⟨entry, hentry, hentryPuts⟩ := (h.present hstored).mem
  have heq : stored = other := h.unique hentry hput hentryPuts hputs
    ((laws.named h.valid hstored).trans hid.symm)
  rw [heq, hvisible]

structure Acts (P : RequirementProtocol ρ) (calls : ι → RequirementCall)
    (held : ρ → JsString → Option StoredRequirement) (alive : Instant → StoredRequirement → Bool)
    (valid : ρ → Prop) (run : RequirementRun ι ρ) (i : ι) (now : Instant) (effect : CommandEffect)
    (after : CallPhase) (next : RequirementRun ι ρ) : Prop where
  sound : next.Sound P calls held valid
  clock : next.clock = now
  applied : Applied held alive now (calls i).request.dependencyId run.store effect next.store
  phase : next.phase = Function.update run.phase i after
  made : after ≠ .notMade
  log : ∀ entry ∈ run.log, entry ∈ next.log
  puts : ∀ {entry stored}, entry ∈ next.log → Puts calls stored entry →
    entry ∈ run.log ∨ (effect = .store stored ∧ entry = (i, .stored (.ok ())))
  stored : ∀ {stored}, effect = .store stored →
    stored.tenantId = (calls i).request.tenant ∧ (i, .stored (.ok ())) ∈ next.log

def phaseAfter (now : Instant) : RequirementReply ⊕ SecondCommand → CallPhase
  | .inl reply => .returned reply now
  | .inr command => .between command

theorem make_acts (laws : CommandLaws held alive P policy valid)
    (h : run.Sound P calls held valid) (htimely : P.Timely (calls i) now)
    (hphase : run.phase i = .notMade) (hguard : PutsOnce P calls run (.make i now)) :
    let planned := policy.plan (calls i) now
      (liveRequirement held alive now run.store (calls i).request.dependencyId)
    Acts P calls held alive valid run i now planned.2 (phaseAfter now planned.1)
      (run.make P (calls i) i now) := by
  intro planned
  obtain ⟨hanswer, hvalid, happlied⟩ := laws.first h.log.valid htimely
    fun requirement tenantId hrequest => (hguard hphase requirement tenantId hrequest).2
  obtain ⟨hreturns, hbetween⟩ := h.log.planned laws htimely
    (fun requirement tenantId hrequest => (hguard hphase requirement tenantId hrequest).1)
    (CommandPolicy.planned_of_plan policy (calls i) now _)
  have hsound := h.make laws htimely hphase hguard
  rw [← hanswer] at hreturns hbetween
  rw [show planned.1 = (P.first (calls i) now run.store).1 from hanswer.symm]
  unfold RequirementRun.make at hsound ⊢
  rcases hfirst : P.first (calls i) now run.store with ⟨reply | command, store⟩
  · rw [hfirst] at hreturns hvalid happlied hsound
    have hexplains := hreturns reply rfl
    refine ⟨hsound, rfl, happlied, rfl, nofun, fun entry hentry => List.mem_cons_of_mem _ hentry,
      fun {entry stored} hentry hputs => ?_, fun {stored} hstored => ?_⟩
    · rcases List.mem_cons.mp hentry with rfl | hentry
      · exact Or.inr ⟨hexplains.put.mp hputs, by rw [show reply = _ from hputs.2]⟩
      · exact Or.inl hentry
    · obtain ⟨hrequest, hreply⟩ := hexplains.put.mpr hstored
      refine ⟨by rw [hrequest]; rfl, ?_⟩
      rw [← show reply = _ from hreply]
      exact List.mem_cons_self
  · rw [hfirst] at hbetween hvalid happlied hsound
    obtain ⟨heffect, _⟩ := hbetween command rfl
    refine ⟨hsound, rfl, happlied, rfl, nofun, fun entry hentry => hentry,
      fun {entry stored} hentry _ => Or.inl hentry, fun {stored} hstored => ?_⟩
    exact nomatch heffect.symm.trans hstored

theorem finish_acts (laws : CommandLaws held alive P policy valid)
    (h : run.Sound P calls held valid) {command : SecondCommand} {stored : StoredRequirement}
    (hread : ReadBy P calls run.log i command stored) {effect : CommandEffect}
    (hvalid : valid (P.second command readAt now run.store).2)
    (happlied : Applied held alive now command.dependencyId run.store effect
      (P.second command readAt now run.store).2)
    (heffect : ∀ stored, effect ≠ .store stored)
    (hexplains : Explains calls held run.store run.log command.dependencyId effect
      (i, (P.second command readAt now run.store).1)) :
    Acts P calls held alive valid run i now effect
      (.returned (P.second command readAt now run.store).1 now)
      (run.returns i now (P.second command readAt now run.store)) where
  sound := h.returns laws hvalid happlied hexplains
  clock := rfl
  applied := hread.asked ▸ happlied
  phase := rfl
  made := nofun
  log _ hentry := List.mem_cons_of_mem _ hentry
  puts := by
    intro entry stored hentry hputs
    rcases List.mem_cons.mp hentry with rfl | hentry
    · exact absurd (hexplains.put.mp hputs) (heffect stored)
    · exact Or.inl hentry
  stored hstored := absurd hstored (heffect _)

theorem Acts.agrees {effect : CommandEffect} {phase : CallPhase}
    (hacts : Acts P calls held alive valid run i now effect phase next)
    (h : ∀ {j}, foreign calls tenantId j = false → CallAgrees P calls tenantId run alone j)
    (hi : foreign calls tenantId i = false → CallAgrees P calls tenantId next alone i) {j : ι}
    (hj : foreign calls tenantId j = false) : CallAgrees P calls tenantId next alone j := by
  by_cases heq : j = i
  · subst heq
    exact hi hj
  · refine (h hj).mono ?_ rfl hacts.log
    rw [hacts.phase, Function.update_of_ne heq]

theorem Shadows.left (h : Shadows P calls held alive valid tenantId run alone)
    (hclock : run.clock ≤ now) {effect : CommandEffect} {phase : CallPhase}
    (hacts : Acts P calls held alive valid run i now effect phase next)
    (hhidden : effect = .keep ∨ (HiddenAt held tenantId run.store (calls i).request.dependencyId ∧
      ∀ stored, effect = .store stored → stored.visibleTo tenantId = false))
    (hi : foreign calls tenantId i = false → CallAgrees P calls tenantId next alone i) :
    Shadows P calls held alive valid tenantId next alone where
  sound := hacts.sound
  soundAlone := h.soundAlone
  clock := by
    rw [hacts.clock]
    exact Int.le_trans h.clock hclock
  stores := by
    rw [hacts.clock]
    rcases hhidden with rfl | ⟨hhidden, hstores⟩
    · intro later hle id
      rw [h.stores.later hclock later hle id]
      by_cases hid : id = (calls i).request.dependencyId
      · rw [hid, hacts.applied.own.2 later hle]
      · rw [(hacts.applied.others id hid).2 later hle]
    · exact (h.stores.later hclock).hidden hhidden hacts.applied hstores
  puts hentry hputs := hacts.log _ (h.puts hentry hputs)
  agrees := hacts.agrees h.agrees hi

theorem Shadows.right (h : Shadows P calls held alive valid tenantId run alone)
    (hclock : run.clock = now) {effect : CommandEffect} {phase : CallPhase}
    (hacts : Acts P calls held alive valid alone i now effect phase aloneNext)
    (hhidden : HiddenAt held tenantId run.store (calls i).request.dependencyId)
    (hstores : ∀ stored, effect ≠ .store stored)
    (hi : foreign calls tenantId i = false → CallAgrees P calls tenantId run aloneNext i) :
    Shadows P calls held alive valid tenantId run aloneNext where
  sound := h.sound
  soundAlone := hacts.sound
  clock := by rw [hacts.clock, hclock]
  stores := by
    rw [hclock]
    exact (h.stores.later (Int.le_of_eq hclock)).hidden_alone hhidden hacts.applied hstores
  puts := by
    intro entry stored hentry hputs
    rcases hacts.puts hentry hputs with hentry | ⟨heffect, _⟩
    · exact h.puts hentry hputs
    · exact absurd heffect (hstores stored)
  agrees := by
    intro j hj
    by_cases heq : j = i
    · subst heq
      exact hi hj
    · refine (h.agrees hj).mono rfl ?_ fun _ hentry => hentry
      rw [hacts.phase, Function.update_of_ne heq]

theorem Shadows.acts (h : Shadows P calls held alive valid tenantId run alone)
    {effect aloneEffect : CommandEffect} {phase alonePhase : CallPhase}
    (hacts : Acts P calls held alive valid run i now effect phase next)
    (halone : Acts P calls held alive valid alone i now aloneEffect alonePhase aloneNext)
    (hstores : StoresAgree held alive tenantId now next.store aloneNext.store)
    (hputs : ∀ stored, aloneEffect = .store stored → effect = .store stored)
    (hi : CallAgrees P calls tenantId next aloneNext i) :
    Shadows P calls held alive valid tenantId next aloneNext where
  sound := hacts.sound
  soundAlone := halone.sound
  clock := by rw [hacts.clock, halone.clock]
  stores := hacts.clock ▸ hstores
  puts := by
    intro entry stored hentry hentryPuts
    rcases halone.puts hentry hentryPuts with hentry | ⟨heffect, rfl⟩
    · exact hacts.log _ (h.puts hentry hentryPuts)
    · exact (hacts.stored (hputs stored heffect)).2
  agrees := by
    intro j hj
    by_cases heq : j = i
    · subst heq
      exact hi
    · refine (h.agrees hj).mono ?_ ?_ hacts.log
      · rw [hacts.phase, Function.update_of_ne heq]
      · rw [halone.phase, Function.update_of_ne heq]

theorem Shadows.same (h : Shadows P calls held alive valid tenantId run alone)
    (hclock : run.clock ≤ now) {effect : CommandEffect} {phase : CallPhase}
    (hacts : Acts P calls held alive valid run i now effect phase next)
    (halone : Acts P calls held alive valid alone i now effect phase aloneNext)
    (hi : foreign calls tenantId i = false) :
    Shadows P calls held alive valid tenantId next aloneNext := by
  refine h.acts hacts halone ?_ (fun _ hstored => hstored) (Or.inl ?_)
  · refine (h.stores.later hclock).same hacts.applied halone.applied fun stored hstored => ?_
    rw [StoredRequirement.visibleTo, (hacts.stored hstored).1]
    rw [foreign] at hi
    rw [hi]
    rfl
  · rw [hacts.phase, halone.phase, Function.update_self, Function.update_self]

omit [DecidableEq ι] in
theorem Shadows.tick (h : Shadows P calls held alive valid tenantId run alone)
    (hclock : run.clock ≤ now) :
    Shadows P calls held alive valid tenantId { run with clock := now }
      { alone with clock := now } where
  sound := h.sound.tick now
  soundAlone := h.soundAlone.tick now
  clock := Int.le_refl now
  stores := h.stores.later hclock
  puts := h.puts
  agrees := h.agrees

omit [DecidableEq ι] in
theorem Shadows.tick_left (h : Shadows P calls held alive valid tenantId run alone)
    (hclock : run.clock ≤ now) :
    Shadows P calls held alive valid tenantId { run with clock := now } alone :=
  { h with
    sound := h.sound.tick now
    clock := Int.le_trans h.clock hclock
    stores := h.stores.later hclock }

/-! ## One event -/

omit [DecidableEq ι] in
theorem Shadows.putsOnce (laws : CommandLaws held alive P policy valid)
    (h : Shadows P calls held alive valid tenantId run alone) (hclock : run.clock ≤ now)
    (hphase : run.phase i = .notMade) (hguard : PutsOnce P calls run (.make i now)) :
    PutsOnce P calls alone (.make i now) := by
  intro _ requirement owner hrequest
  obtain ⟨hfresh, hroom⟩ := hguard hphase requirement owner hrequest
  refine ⟨fun entry hentry stored hputs => hfresh entry (h.puts hentry hputs) stored hputs, ?_⟩
  refine laws.hasRoom_mono (fun id hid => ?_) hroom
  rw [h.stores now hclock id] at hid
  obtain ⟨stored, hstored⟩ := Option.isSome_iff_exists.mp hid
  rw [(Option.filter_eq_some_iff.mp hstored).1]
  rfl

theorem visible_of_owner {stored : StoredRequirement} (h : stored.visibleTo tenantId = false) :
    stored.tenantId ≠ some tenantId := by
  intro heq
  simp [StoredRequirement.visibleTo, heq] at h

omit [DecidableEq ι] in
theorem tenant_of_not_foreign {owner : JsString} (h : foreign calls tenantId i = false)
    (howner : (calls i).request.tenant = some owner) : owner = tenantId := by
  rw [foreign, howner] at h
  simpa using h

theorem Shadows.make (laws : CommandLaws held alive P policy valid)
    (h : Shadows P calls held alive valid tenantId run alone) (hclock : run.clock ≤ now)
    (htimely : P.Timely (calls i) now) (hphase : run.phase i = .notMade)
    (halonePhase : alone.phase i = .notMade) (hguard : PutsOnce P calls run (.make i now))
    (hi : foreign calls tenantId i = false) :
    Shadows P calls held alive valid tenantId (run.make P (calls i) i now)
      (alone.make P (calls i) i now) := by
  have hacts := make_acts laws h.sound htimely hphase hguard
  have halone := make_acts laws h.soundAlone htimely halonePhase
    (h.putsOnce laws hclock hphase hguard)
  rw [h.stores now hclock] at halone
  cases hfound : liveRequirement held alive now run.store (calls i).request.dependencyId with
  | none =>
      rw [hfound] at hacts halone
      exact h.same hclock hacts halone hi
  | some stored =>
      rw [hfound] at hacts halone
      cases hvisible : stored.visibleTo tenantId with
      | true =>
          rw [Option.filter_some_pos hvisible] at halone
          exact h.same hclock hacts halone hi
      | false =>
          rw [Option.filter_some_neg (by simp [hvisible])] at halone
          have hheld := (Option.filter_eq_some_iff.mp hfound).1
          have hid := laws.named h.sound.log.valid hheld
          obtain ⟨put, hput, hputs⟩ := (h.sound.log.present hheld).mem
          have hnot : ∀ requirement owner, (calls i).request ≠ .putFor requirement owner := by
            intro requirement owner hrequest
            refine (hguard hphase requirement owner hrequest).1 put hput stored hputs ?_
            rw [hid, hrequest]
            rfl
          cases htenant : (calls i).request.tenant with
          | some owner =>
              have howner := tenant_of_not_foreign hi htenant
              rw [CommandPolicy.plan_foreign htenant hnot
                (howner ▸ visible_of_owner hvisible)] at hacts
              exact h.same hclock hacts halone hi
          | none =>
              have hother : PutByOther calls tenantId run.log (calls i).request.dependencyId :=
                ⟨stored, hid, hvisible, put, hput, hputs⟩
              have hhidden := hiddenAt_of_putByOther laws h.sound.log hother
              have hnoStore : ∀ {found stored}, (policy.plan (calls i) now found).2 ≠
                  .store stored := fun hstore => hnot _ _ (CommandPolicy.plan_store hstore)
              refine h.acts hacts halone ?_ (fun _ hstore => absurd hstore hnoStore)
                (Or.inr (Or.inr ⟨htenant, ?_, ?_, ?_⟩))
              · exact ((h.stores.later hclock).hidden hhidden hacts.applied fun _ hstore =>
                  absurd hstore hnoStore).hidden_alone
                    (hhidden.applied hacts.applied fun _ hstore =>
                  absurd hstore hnoStore) halone.applied fun _ => hnoStore
              · rw [halone.phase, Function.update_self]
                exact halone.made
              · rw [hacts.phase, Function.update_self]
                exact hacts.made
              · exact ⟨stored, hid, hvisible, put, hacts.log put hput, hputs⟩

omit [DecidableEq ι] in
theorem tenant_of_foreign (h : foreign calls tenantId i = true) :
    ∃ owner, (calls i).request.tenant = some owner ∧ owner ≠ tenantId := by
  rw [foreign, Option.any_eq_true] at h
  obtain ⟨owner, htenant, howner⟩ := h
  exact ⟨owner, htenant, of_decide_eq_true howner⟩

theorem hidden_of_owner {stored : StoredRequirement} {owner : JsString}
    (h : stored.tenantId = some owner) (hne : owner ≠ tenantId) :
    stored.visibleTo tenantId = false := by
  simp [StoredRequirement.visibleTo, h, hne]

theorem Shadows.make_foreign (laws : CommandLaws held alive P policy valid)
    (h : Shadows P calls held alive valid tenantId run alone) (hclock : run.clock ≤ now)
    (htimely : P.Timely (calls i) now) (hphase : run.phase i = .notMade)
    (hguard : PutsOnce P calls run (.make i now)) (hi : foreign calls tenantId i = true) :
    Shadows P calls held alive valid tenantId (run.make P (calls i) i now) alone := by
  have hacts := make_acts laws h.sound htimely hphase hguard
  refine h.left hclock hacts ?_ fun hnot => nomatch hi.symm.trans hnot
  obtain ⟨owner, htenant, howner⟩ := tenant_of_foreign hi
  by_cases hput : ∃ requirement tenant, (calls i).request = .putFor requirement tenant
  · -- The id is new, and what is stored belongs to the other tenant.
    obtain ⟨requirement, tenant, hrequest⟩ := hput
    refine Or.inr ⟨fun stored hstored => ?_, fun stored hstore => ?_⟩
    · obtain ⟨put, hmem, hputs⟩ := (h.sound.log.present hstored).mem
      refine absurd ?_ ((hguard hphase requirement tenant hrequest).1 put hmem stored hputs)
      rw [laws.named h.sound.log.valid hstored, hrequest]
      rfl
    · rw [CommandPolicy.plan_store hstore] at htenant
      exact hidden_of_owner htenant howner
  · have hnot : ∀ requirement tenant, (calls i).request ≠ .putFor requirement tenant :=
      fun requirement tenant hrequest => hput ⟨requirement, tenant, hrequest⟩
    cases hfound : liveRequirement held alive now run.store (calls i).request.dependencyId with
    | none => exact Or.inl (CommandPolicy.plan_none htenant hnot)
    | some stored =>
        by_cases hstored : stored.tenantId = some owner
        · refine Or.inr ⟨fun other hother => ?_, fun _ hstore =>
            absurd (CommandPolicy.plan_store hstore) (hnot _ _)⟩
          obtain rfl : stored = other := Option.some.inj
            ((Option.filter_eq_some_iff.mp hfound).1.symm.trans hother)
          exact hidden_of_owner hstored howner
        · rw [CommandPolicy.plan_foreign htenant hnot hstored]
          exact Or.inl (CommandPolicy.plan_none htenant hnot)

theorem finish_stores (laws : CommandLaws held alive P policy valid)
    (h : run.Sound P calls held valid) {command : SecondCommand} {stored : StoredRequirement}
    (hread : ReadBy P calls run.log i command stored) (readAt now : Instant) :
    ∃ effect, (∀ stored, effect ≠ .store stored) ∧
      Acts P calls held alive valid run i now effect
        (.returned (P.second command readAt now run.store).1 now)
        (run.returns i now (P.second command readAt now run.store)) := by
  obtain ⟨hvalid, effect, hstores, happlied, hexplains⟩ := h.log.finished laws hread readAt now
  exact ⟨effect, hstores, finish_acts laws h hread hvalid happlied hstores hexplains⟩

theorem Shadows.finish_left (laws : CommandLaws held alive P policy valid)
    (h : Shadows P calls held alive valid tenantId run alone) (hclock : run.clock ≤ now)
    {command : SecondCommand} (hphase : run.phase i = .between command)
    (hhidden : HiddenAt held tenantId run.store (calls i).request.dependencyId)
    (hi : foreign calls tenantId i = false → CallAgrees P calls tenantId
      (run.returns i now (P.second command readAt now run.store)) alone i) :
    Shadows P calls held alive valid tenantId
      (run.returns i now (P.second command readAt now run.store)) alone := by
  obtain ⟨stored, hread⟩ := h.sound.between hphase
  obtain ⟨effect, hstores, hacts⟩ := finish_stores laws h.sound hread readAt now
  exact h.left hclock hacts (Or.inr ⟨hhidden, fun _ hstore => absurd hstore (hstores _)⟩) hi

/-- A deletion is decided by what it finds, unless what it has read has expired. -/
theorem Shadows.finish_removal (laws : CommandLaws held alive P policy valid)
    (h : Shadows P calls held alive valid tenantId run alone) (hclock : run.clock ≤ now)
    {dependencyId : JsString} {read : StoredRequirement}
    (hphase : run.phase i = .between (.remove dependencyId read))
    (halonePhase : alone.phase i = .between (.remove dependencyId read))
    (hi : foreign calls tenantId i = false) :
    Shadows P calls held alive valid tenantId
      (run.returns i now (P.second (.remove dependencyId read) readAt now run.store))
      (alone.returns i now (P.second (.remove dependencyId read) readAt now alone.store)) := by
  obtain ⟨stored, hread⟩ := h.sound.between hphase
  obtain ⟨storedAlone, hreadAlone⟩ := h.soundAlone.between halonePhase
  obtain ⟨decides, hnone, hremove⟩ := laws.remove dependencyId read readAt now
  obtain ⟨removed, hreply, hvalid, happlied, hremoved⟩ := hremove run.store h.sound.log.valid
  obtain ⟨removedAlone, hreplyAlone, hvalidAlone, happliedAlone, hremovedAlone⟩ :=
    hremove alone.store h.soundAlone.log.valid
  have hacts := finish_acts laws h.sound hread hvalid happlied
    (fun _ => by cases removed <;> nofun)
    (by
      rw [hreply]
      exact h.sound.log.explains_removal laws hread (found_of_removed hnone hremoved))
  have halone := finish_acts laws h.soundAlone hreadAlone hvalidAlone happliedAlone
    (fun _ => by cases removedAlone <;> nofun)
    (by rw [hreplyAlone]; exact h.soundAlone.log.explains_removal laws hreadAlone
          (found_of_removed hnone hremovedAlone))
  by_cases hsame : removedAlone = removed
  · subst hsame
    rw [hreply] at hacts
    rw [hreplyAlone] at halone
    exact h.same hclock hacts halone hi
  · -- One of the two has found what the other one takes to be gone: it has expired.
    have hfound : ∀ {found}, held run.store dependencyId = some found → found = stored :=
      fun hheld => h.sound.log.held_eq laws hread hheld
    have halive : ∀ {found}, liveRequirement held alive now run.store dependencyId = some found →
        found = stored ∧ alive now found := by
      intro found hlive
      obtain ⟨hheld, hfoundAlive⟩ := Option.filter_eq_some_iff.mp hlive
      exact ⟨hfound hheld, hfoundAlive⟩
    have hvisible : stored.visibleTo tenantId = true := by
      obtain ⟨owner, hrequest⟩ := hread.remove dependencyId read rfl
      have htenant : (calls i).request.tenant = some owner := by
        rw [hrequest]
        rfl
      simp [StoredRequirement.visibleTo, hread.owner owner htenant,
        tenant_of_not_foreign hi htenant]
    have hstores := h.stores now hclock dependencyId
    have hexpired : P.prompt = true ∧ stored.expired now = true := by
      rcases hremoved with hdecided | ⟨hprompt, _, found, hheld, hexpired⟩
      · rcases hremovedAlone with hdecidedAlone | ⟨hprompt, _, found, hheld, hexpired⟩
        · refine absurd ?_ hsame
          rw [hdecided, hdecidedAlone, hstores]
          cases hlive : liveRequirement held alive now run.store dependencyId with
          | none => rfl
          | some found =>
              rw [(halive hlive).1, Option.filter_some_pos hvisible]
        · obtain ⟨put, hput, hputs⟩ := (h.soundAlone.log.present hheld).mem
          obtain ⟨other, hother, hotherPuts⟩ := hread.put
          have heq : found = stored :=
            h.sound.log.unique (h.puts hput hputs) hother hputs hotherPuts
            ((laws.named h.soundAlone.log.valid hheld).trans hread.named.symm)
          exact ⟨hprompt, heq ▸ hexpired⟩
      · exact ⟨hprompt, hfound hheld ▸ hexpired⟩
    have hnone : liveRequirement held alive now run.store dependencyId = none := by
      cases hlive : liveRequirement held alive now run.store dependencyId with
      | none => rfl
      | some found =>
          obtain ⟨rfl, hfoundAlive⟩ := halive hlive
          rw [laws.alive_of_prompt hexpired.1, hexpired.2] at hfoundAlive
          exact nomatch hfoundAlive
    refine h.acts hacts halone ((h.stores.later hclock).applied happlied happliedAlone ?_)
      (fun _ hstore => by cases removedAlone <;> exact nomatch hstore)
      (Or.inr (Or.inl ⟨hexpired.1, removed, removedAlone, now, stored, ?_, ?_, ?_, ?_, ?_, ?_⟩))
    · intro later hle
      have hlater := live_none_later (@laws.alive_later) hle hnone
      have hlaterAlone : liveRequirement held alive later alone.store dependencyId = none := by
        rw [h.stores later (Int.le_trans hclock hle), hlater]
        rfl
      have hafter := happlied.live_none hle (fun _ => by cases removed <;> nofun) hlater
      have hafterAlone := happliedAlone.live_none hle (fun _ => by cases removedAlone <;> nofun)
        hlaterAlone
      exact filter_of_none hafter hafterAlone
    · rw [hacts.phase, Function.update_self, hreply]
    · rw [halone.phase, Function.update_self, hreplyAlone]
    · obtain ⟨put, hput, hputs⟩ := hread.put
      exact ⟨put, hacts.log put hput, hputs⟩
    · exact hread.named.trans hread.asked
    · exact hread.current hexpired.1
    · exact hexpired.2

theorem Shadows.finish_cleanUp (laws : CommandLaws held alive P policy valid)
    (h : Shadows P calls held alive valid tenantId run alone) (hclock : run.clock ≤ now)
    {dependencyId : JsString} (hphase : run.phase i = .between (.cleanUp dependencyId))
    (halonePhase : alone.phase i = .between (.cleanUp dependencyId))
    (hi : foreign calls tenantId i = false) :
    Shadows P calls held alive valid tenantId
      (run.returns i now (P.second (.cleanUp dependencyId) readAt now run.store))
      (alone.returns i now (P.second (.cleanUp dependencyId) readAt now alone.store)) := by
  have hacts : ∀ {some : RequirementRun ι ρ}, some.Sound P calls held valid →
      some.phase i = .between (.cleanUp dependencyId) →
      Acts P calls held alive valid some i now .drop (.returned (.found (.ok none)) now)
        (some.returns i now (P.second (.cleanUp dependencyId) readAt now some.store)) := by
    intro some hsound hbetween
    obtain ⟨stored, hread⟩ := hsound.between hbetween
    obtain ⟨hreply, hvalid, happlied⟩ := laws.cleanUp dependencyId readAt now hsound.log.valid
    have hacts := finish_acts laws hsound hread hvalid happlied nofun
      (by rw [hreply]; exact explains_cleanUp)
    rwa [hreply] at hacts
  exact h.same hclock (hacts h.sound hphase) (hacts h.soundAlone halonePhase) hi

theorem finish_log : ∀ entry ∈ run.log, entry ∈ (run.finish P i readAt now).log := by
  intro entry hentry
  unfold RequirementRun.finish
  cases run.phase i with
  | between command => exact List.mem_cons_of_mem _ hentry
  | notMade => exact hentry
  | returned reply time => exact hentry

theorem Shadows.finish (laws : CommandLaws held alive P policy valid)
    (h : Shadows P calls held alive valid tenantId run alone) (hclock : run.clock ≤ now)
    (hi : foreign calls tenantId i = false) :
    Shadows P calls held alive valid tenantId (run.finish P i readAt now)
      (alone.finish P i readAt now) := by
  unfold RequirementRun.finish
  rcases h.agrees hi with heq | ⟨_, _, _, _, _, hreturned, hreturnedAlone, _⟩ |
    ⟨htenant, hmadeAlone, hmade, hother⟩
  · rw [heq]
    cases hphase : run.phase i with
    | notMade => exact h.tick hclock
    | returned reply time => exact h.tick hclock
    | between command =>
        cases command with
        | cleanUp dependencyId =>
            exact h.finish_cleanUp laws hclock hphase (heq.trans hphase) hi
        | remove dependencyId read =>
            exact h.finish_removal laws hclock hphase (heq.trans hphase) hi
  · rw [hreturned, hreturnedAlone]
    exact h.tick hclock
  · -- Nobody's call on an id of another tenant: each run finishes what it has begun.
    have hhidden := hiddenAt_of_putByOther laws h.sound.log hother
    have hleft : Shadows P calls held alive valid tenantId (run.finish P i readAt now) alone := by
      unfold RequirementRun.finish
      cases hphase : run.phase i with
      | notMade => exact absurd hphase hmade
      | returned reply time => exact h.tick_left hclock
      | between command =>
          refine h.finish_left laws hclock hphase hhidden fun _ => Or.inr (Or.inr ?_)
          obtain ⟨stored, hid, hvisible, put, hput, hputs⟩ := hother
          refine ⟨htenant, hmadeAlone, ?_, stored, hid, hvisible, put,
            List.mem_cons_of_mem _ hput, hputs⟩
          exact fun hnot => nomatch (Function.update_self i _ run.phase).symm.trans hnot
    have hclockNext : (run.finish P i readAt now).clock = now := by
      unfold RequirementRun.finish
      cases run.phase i <;> rfl
    have hotherNext : PutByOther calls tenantId (run.finish P i readAt now).log
        (calls i).request.dependencyId := by
      obtain ⟨stored, hid, hvisible, put, hput, hputs⟩ := hother
      exact ⟨stored, hid, hvisible, put, finish_log put hput, hputs⟩
    have hmadeNext : (run.finish P i readAt now).phase i ≠ .notMade := by
      unfold RequirementRun.finish
      cases hphase : run.phase i with
      | notMade => exact absurd hphase hmade
      | between command =>
          exact fun hnot => nomatch (Function.update_self i _ run.phase).symm.trans hnot
      | returned reply time => exact fun hnot => nomatch hphase.symm.trans hnot
    cases hphase : alone.phase i with
    | notMade => exact absurd hphase hmadeAlone
    | returned reply time => exact { hleft with
        soundAlone := h.soundAlone.tick now
        clock := Int.le_of_eq hclockNext.symm }
    | between command =>
        obtain ⟨stored, hread⟩ := h.soundAlone.between hphase
        obtain ⟨effect, hstores, hacts⟩ := finish_stores laws h.soundAlone hread readAt now
        refine hleft.right hclockNext hacts (hiddenAt_of_putByOther laws hleft.sound.log hotherNext)
          hstores fun _ => Or.inr (Or.inr ⟨htenant, ?_, hmadeNext, hotherNext⟩)
        rw [hacts.phase, Function.update_self]
        exact hacts.made

theorem Shadows.finish_foreign (laws : CommandLaws held alive P policy valid)
    (h : Shadows P calls held alive valid tenantId run alone) (hclock : run.clock ≤ now)
    (hi : foreign calls tenantId i = true) :
    Shadows P calls held alive valid tenantId (run.finish P i readAt now) alone := by
  unfold RequirementRun.finish
  cases hphase : run.phase i with
  | notMade => exact h.tick_left hclock
  | returned reply time => exact h.tick_left hclock
  | between command =>
      obtain ⟨stored, hread⟩ := h.sound.between hphase
      obtain ⟨owner, htenant, howner⟩ := tenant_of_foreign hi
      refine h.finish_left laws hclock hphase ?_ fun hnot => nomatch hi.symm.trans hnot
      exact hiddenAt_of_putByOther laws h.sound.log ⟨stored, hread.named.trans hread.asked,
        hidden_of_owner (hread.owner owner htenant) howner, hread.put⟩

omit [DecidableEq ι] in
theorem Shadows.initial (laws : CommandLaws held alive P policy valid) (time : Instant) :
    Shadows P calls held alive valid tenantId (.initial P time) (.initial P time) where
  sound := .initial laws time
  soundAlone := .initial laws time
  clock := Int.le_refl time
  stores := by
    intro later _ id
    have hnone : liveRequirement held alive later P.empty id = none := by
      rw [liveRequirement, laws.held_empty]
      rfl
    exact filter_of_none hnone hnone
  puts hentry := nomatch hentry
  agrees _ := Or.inl rfl

theorem call_of_notMade {made : RequirementCall} (h : run.phase i = .notMade) :
    run.call P made i now = run.make P made i now := by
  rw [RequirementRun.call, h]

theorem call_of_made {made : RequirementCall} (h : run.phase i ≠ .notMade) :
    run.call P made i now = { run with clock := now } := by
  unfold RequirementRun.call
  cases hphase : run.phase i with
  | notMade => exact absurd hphase h
  | between command => rfl
  | returned reply time => rfl

theorem Shadows.kept (laws : CommandLaws held alive P policy valid)
    (h : Shadows P calls held alive valid tenantId run alone) {event : CallEvent ι}
    (hguard : PutsOnce P calls run event) (hi : foreign calls tenantId event.call = false)
    (hstep : (requirementMachine P calls).step run event = some next) :
    ∃ aloneNext, (requirementMachine P calls).step alone event = some aloneNext ∧
      Shadows P calls held alive valid tenantId next aloneNext := by
  cases event with
  | make i now =>
      simp only [requirementMachine] at hstep ⊢
      split_ifs at hstep with henabled
      rw [if_pos ⟨Int.le_trans h.clock henabled.1, henabled.2⟩]
      refine ⟨_, rfl, ?_⟩
      rw [← Option.some.inj hstep]
      have hi : foreign calls tenantId i = false := hi
      rcases h.agrees hi with heq | ⟨_, _, _, _, _, hreturned, hreturnedAlone, _⟩ |
        ⟨_, hmadeAlone, hmade, _⟩
      · by_cases hphase : run.phase i = .notMade
        · rw [call_of_notMade hphase, call_of_notMade (heq.trans hphase)]
          exact h.make laws henabled.1 henabled.2 hphase (heq.trans hphase) hguard hi
        · rw [call_of_made hphase, call_of_made (heq ▸ hphase)]
          exact h.tick henabled.1
      · rw [call_of_made (by rw [hreturned]; nofun), call_of_made (by rw [hreturnedAlone]; nofun)]
        exact h.tick henabled.1
      · rw [call_of_made hmade, call_of_made hmadeAlone]
        exact h.tick henabled.1
  | finish i readAt now =>
      simp only [requirementMachine] at hstep ⊢
      split_ifs at hstep with henabled
      rw [if_pos ⟨Int.le_trans h.clock henabled.1, henabled.2⟩]
      refine ⟨_, rfl, ?_⟩
      rw [← Option.some.inj hstep]
      exact h.finish laws henabled.1 hi

theorem Shadows.dropped (laws : CommandLaws held alive P policy valid)
    (h : Shadows P calls held alive valid tenantId run alone) {event : CallEvent ι}
    (hguard : PutsOnce P calls run event) (hi : foreign calls tenantId event.call = true)
    (hstep : (requirementMachine P calls).step run event = some next) :
    Shadows P calls held alive valid tenantId next alone := by
  cases event with
  | make i now =>
      simp only [requirementMachine] at hstep
      split_ifs at hstep with henabled
      rw [← Option.some.inj hstep, RequirementRun.call]
      cases hphase : run.phase i with
      | notMade => exact h.make_foreign laws henabled.1 henabled.2 hphase hguard hi
      | between command => exact h.tick_left henabled.1
      | returned reply time => exact h.tick_left henabled.1
  | finish i readAt now =>
      simp only [requirementMachine] at hstep
      split_ifs at hstep with henabled
      rw [← Option.some.inj hstep]
      exact h.finish_foreign laws henabled.1 hi

end Shadows

/-! ## The three stores -/

theorem tenantsIsolated (ι : Type) [DecidableEq ι] {ρ : Type} {P : RequirementProtocol ρ}
    {held : ρ → JsString → Option StoredRequirement} {alive : Instant → StoredRequirement → Bool}
    {policy : CommandPolicy} {valid : ρ → Prop} (laws : CommandLaws held alive P policy valid)
    {excused : (ι → RequirementCall) → RequirementRun ι ρ → ι → CallPhase → Prop}
    (hexcused : ∀ calls run i other, P.prompt → ExpiredMeanwhile calls run i other →
      excused calls run i other) :
    TenantsIsolated ι P excused where
  readsOwn _ _ _ h := (RequirementRun.Sound.reached laws h).log.readsOwn
  removesOwn := by
    intro calls time run h entry hentry dependencyId tenantId hremoves
    exact ((RequirementRun.Sound.reached laws h).log.removed hentry hremoves).2
  removesOnce _ _ _ h := (RequirementRun.Sound.reached laws h).log.removesOnce
  othersUnseen := by
    intro calls time tenantId events run halong hrun
    obtain ⟨alone, halone, hshadows⟩ := @Machine.run_filter _ _ (requirementMachine P calls) _
      (fun event => !foreign calls tenantId event.call) (Shadows P calls held alive valid tenantId)
      (fun h hguard hkeep hstep => h.kept laws hguard (by simpa using hkeep) hstep)
      (fun h hguard hkeep hstep => h.dropped laws hguard (by simpa using hkeep) hstep)
      _ _ _ _ (.initial laws time) halong hrun
    refine ⟨alone, halone, fun i htenant => ?_⟩
    have hi : foreign calls tenantId i = false := by
      rw [foreign, htenant]
      simp
    rcases hshadows.agrees hi with heq | ⟨hprompt, hexpired⟩ | ⟨hnone, _⟩
    · exact Or.inl heq
    · exact Or.inr (hexcused calls run i _ hprompt hexpired)
    · exact nomatch hnone.symm.trans htenant

structure RequirementsIsolated
    (excused : ∀ {ι : Type}, (ι → RequirementCall) → RequirementRun ι RequirementEntries → ι →
      CallPhase → Prop) : Prop where
  inMemory : ∀ (ι : Type) [DecidableEq ι] maximumEntries,
    TenantsIsolated ι (InMemoryRequirementStore.protocol maximumEntries) excused
  redis : ∀ (ι : Type) [DecidableEq ι] keyPrefix,
    TenantsIsolated ι (RedisX424Store.protocol keyPrefix) fun _ _ _ _ => False
  postgres : ∀ (ι : Type) [DecidableEq ι],
    TenantsIsolated ι PostgresX424Store.protocol fun _ _ _ _ => False

namespace ExpiresInBetween

/-- The first tenant puts and deletes `d`; the second one puts another requirement. -/
def calls : Fin 3 → RequirementCall
  | 0 => ⟨.putFor LastSecond.requirement (some (js "t")), 0⟩
  | 1 => ⟨.deleteForTenant (js "d") (js "t"), 1499⟩
  | 2 => ⟨.putFor { LastSecond.requirement with dependencyId := js "e", expiresAt := some 9000 }
      (some (js "u")), 1500⟩

def events : List (CallEvent (Fin 3)) :=
  [.make 0 0, .make 1 1499, .make 2 1500, .finish 1 1499 1500]

end ExpiresInBetween

/-- Whether the deletion succeeds depends on the other tenant's call. -/
theorem removal_told_by_prune : ¬ RequirementsIsolated fun _ _ _ _ => False := by
  intro h
  let P := InMemoryRequirementStore.protocol 10
  let M := requirementMachine P ExpiresInBetween.calls
  let start := RequirementRun.initial (ι := Fin 3) P 0
  have hrun : (M.run start ExpiresInBetween.events).map (·.phase 1) =
      some (.returned (.deletedForTenant (.ok false)) 1500) := by decide +kernel
  obtain ⟨run, hreached, hphase⟩ := Option.map_eq_some_iff.mp hrun
  have halong : M.Along (PutsOnce P ExpiresInBetween.calls) start ExpiresInBetween.events := by
    refine ⟨?_, fun first hfirst => ⟨?_, fun second hsecond => ⟨?_, fun _ _ =>
      ⟨trivial, fun _ _ => trivial⟩⟩⟩⟩
    · exact fun _ _ _ _ => ⟨fun _ hentry => (nomatch hentry), by decide⟩
    · exact fun _ _ _ hrequest => nomatch hrequest
    · have hfirstTwo : M.run start [.make 0 0, .make 1 1499] = some second :=
        M.run_cons_some.mpr ⟨first, hfirst, M.run_cons_some.mpr ⟨second, hsecond, rfl⟩⟩
      have hfacts : (M.run start [.make 0 0, .make 1 1499]).map
          (fun run => (run.log, P.hasRoom 1500 run.store)) =
          some ([(0, .stored (.ok ()))], true) := by decide +kernel
      rw [hfirstTwo, Option.map_some, Option.some.injEq, Prod.mk.injEq] at hfacts
      intro _ requirement tenantId hrequest
      refine ⟨fun entry hentry stored hputs => ?_, hfacts.2⟩
      rw [hfacts.1, List.mem_singleton] at hentry
      subst hentry
      have hstored : stored.requirement = LastSecond.requirement := by
        have heq := hputs.1
        simp only [ExpiresInBetween.calls, RequirementRequest.putFor.injEq] at heq
        exact heq.1.symm
      have hrequirement : requirement.dependencyId = js "e" := by
        simp only [ExpiresInBetween.calls, RequirementRequest.putFor.injEq] at hrequest
        rw [← hrequest.1]
      rw [StoredRequirement.dependencyId, hstored, hrequirement]
      decide
  obtain ⟨alone, halone, hagrees⟩ := (h.inMemory (Fin 3) 10).othersUnseen ExpiresInBetween.calls 0
    (js "t") ExpiresInBetween.events run halong hreached
  have hrunAlone : (M.run start (ExpiresInBetween.events.filter fun event =>
      !foreign ExpiresInBetween.calls (js "t") event.call)).map (·.phase 1) =
      some (.returned (.deletedForTenant (.ok true)) 1500) := by decide +kernel
  rw [halone] at hrunAlone
  have hphaseAlone : alone.phase 1 = .returned (.deletedForTenant (.ok true)) 1500 :=
    Option.some.inj hrunAlone
  have hsame := (hagrees 1 (by decide)).resolve_right id
  rw [hphaseAlone, hphase] at hsame
  exact absurd hsame (by decide)

theorem requirements_isolated : RequirementsIsolated ExpiredMeanwhile where
  inMemory ι _ maximumEntries :=
    tenantsIsolated ι (inMemory_commandLaws maximumEntries) fun _ _ _ _ _ h => h
  redis ι _ keyPrefix := tenantsIsolated ι (redis_commandLaws keyPrefix) nofun
  postgres ι _ := tenantsIsolated ι postgres_commandLaws nofun

end X424
