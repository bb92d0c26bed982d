import X424.Foundation.ReadCommitted
import X424.ResultStores

/-!
# Concurrent acceptance by one operation

Calls of one operation on one result id race.  The in-memory and the Redis
store answer one call at a time, so the first call is told `new` and the others
`same_operation`.  The PostgreSQL statement decides from two views: its
`INSERT` gives way to a row committed after the statement began, which the
`SELECT` of the same statement does not see.
-/

namespace X424

open Foundation ReadCommitted

/-- The statement of `#acceptResult` or `#acceptResultWithLegacy`.  The former
compares expiries with `NOW()`, the start of the transaction. -/
def acceptStatement (c : ResultCall AcceptedOperation) (expiresAtMs startedAt : Instant) :
    InsertStatement JsString (Cell AcceptedOperation) ResultAcceptanceStatus where
  key := c.resultId
  row := ⟨c.operation, expiresAtMs⟩
  offers snapshot := (c.legacyResultId.bind (Cells.live snapshot c.now)).isNone
  answer snapshot inserted :=
    let readAt := if c.legacyResultId.isSome then c.now else startedAt
    if inserted then .new
    else if ((c.legacyResultId.bind (Cells.live snapshot c.now)).any
          fun row => row.value = c.operation) ||
        (Cells.live snapshot readAt c.resultId).any fun row => row.value = c.operation then
      .sameOperation
    else .replay

/-- On its own the statement does what `acceptResult` or `acceptResultWithLegacy` does. -/
theorem acceptStatement_alone {ι : Type} [DecidableEq ι] {c : ResultCall AcceptedOperation}
    {e : Instant} (hexpires : c.expiresAt = some e) (htime : c.now < e)
    (hadmits : acceptanceAdmits c.claim = true) {rows : Cells JsString AcceptedOperation}
    (session : ι) :
    ∃ next, (machine fun _ => acceptStatement c e c.now).run (Database.initial rows)
        [.start session, .execute session, .commit session] = some next ∧
      ∃ status, next.phase session = .committed status ∧
        PostgresX424Store.resultAcceptances.call c rows = (.ok status, next.rows) := by
  obtain ⟨next, hrun, hphase, hrows⟩ := run_alone (fun _ : ι => acceptStatement c e c.now)
    (Database.initial rows) session rfl rfl
  refine ⟨next, hrun, _, hphase, ?_⟩
  rw [hrows]
  have hpast : parsedLe (some e) c.now = false := decide_eq_false (Int.not_le.mpr htime)
  have hformed : c.input.wellFormed = true ∧
      c.legacyResultId.all wellFormedLegacyId = true := Bool.and_eq_true _ _ ▸ hadmits
  unfold ResultAcceptanceStore.call PostgresX424Store.resultAcceptances acceptStatement
  cases hlegacy : c.legacyResultId with
  | none =>
      cases hrow : rows c.resultId with
      | none =>
          simp [PostgresX424Store.acceptResult, insertOnConflictDoNothing, hexpires, hpast,
            hformed.1, hrow, Database.initial, Cells.put]
      | some row =>
          simp [PostgresX424Store.acceptResult, insertOnConflictDoNothing, hexpires, hpast,
            hformed.1, hrow, Database.initial]
          cases hany : (rows.live c.now c.resultId).any fun row => row.value = c.operation <;>
            simp <;> exact hany
  | some legacy =>
      have hlegacyFormed : wellFormedLegacyId legacy = true := by
        simpa [hlegacy] using hformed.2
      cases hlive : rows.live c.now legacy with
      | none =>
          cases hrow : rows c.resultId with
          | none =>
              simp [PostgresX424Store.acceptResultWithLegacy, insertOnConflictDoNothing,
                hexpires, hpast, hformed.1, hlegacyFormed, hlive, hrow, Database.initial,
                Cells.put]
          | some row =>
              simp [PostgresX424Store.acceptResultWithLegacy, insertOnConflictDoNothing,
                hexpires, hpast, hformed.1, hlegacyFormed, hlive, hrow, Database.initial]
              cases hany : (rows.live c.now c.resultId).any fun row => row.value = c.operation <;>
                simp <;> exact hany
      | some row =>
          by_cases hsame : row.value = c.operation
          · simp [PostgresX424Store.acceptResultWithLegacy, hexpires, hpast, hformed.1,
              hlegacyFormed, hlive, hsame, Database.initial]
          · simp [PostgresX424Store.acceptResultWithLegacy, hexpires, hpast, hformed.1,
              hlegacyFormed, hlive, hsame, Database.initial]
            cases hany : (rows.live c.now c.resultId).any fun row => row.value = c.operation <;>
                simp <;> exact hany

/-! ## Stores that answer one call at a time -/

/-- The first call is told `new` and every later one `same_operation`. -/
def FirstIsNew (answers : List (Except JsError ResultAcceptanceStatus)) : Prop :=
  ∃ rest, answers = .ok .new :: rest ∧ ∀ answer ∈ rest, answer = .ok .sameOperation

/-- The call of `c`, and then the same call at later times. -/
def repeated (c : ResultCall AcceptedOperation) (times : List Instant) :
    List (ResultCall AcceptedOperation) :=
  c :: times.map fun time => { c with now := time }

section Atomic

variable {σ : Type} {c : ResultCall AcceptedOperation} {e : Instant}

private theorem history_same {call : ResultCall AcceptedOperation → σ →
      Except JsError ResultAcceptanceStatus × σ} {Taken : Instant → σ → Prop}
    (hnext : ∀ {time s}, time < e → Taken time s →
      (call { c with now := time } s).1 = .ok .sameOperation ∧
        Taken time (call { c with now := time } s).2)
    (hlater : ∀ {now time s}, Taken now s → now ≤ time → Taken time s)
    {times : List Instant} (htimes : ∀ time ∈ times, time < e) {now : Instant}
    (hordered : (now :: times).Pairwise fun earlier later => earlier ≤ later) {s : σ}
    (h : Taken now s) :
    ∀ entry ∈ history call s (times.map fun time => { c with now := time }),
      entry.2 = .ok .sameOperation := by
  induction times generalizing now s with
  | nil => simp [history]
  | cons time times ih =>
      obtain ⟨hnow, hrest⟩ := List.pairwise_cons.mp hordered
      obtain ⟨hanswer, htaken⟩ :=
        hnext (htimes time List.mem_cons_self) (hlater h (hnow time List.mem_cons_self))
      simp only [List.map_cons, history, List.mem_cons]
      rintro entry (rfl | hentry)
      · exact hanswer
      · exact ih (fun t ht => htimes t (List.mem_cons_of_mem time ht)) hrest htaken entry hentry

/-- From `now` until the expiry the call finds its own operation. -/
def Taken {ν : Type} (encode : AcceptedOperation → ν) (place : JsString → JsString)
    (c : ResultCall AcceptedOperation) (e : Instant) (now : Instant)
    (cells : Cells JsString ν) : Prop :=
  ∀ time, now ≤ time → time < e →
    ({ c with now := time }).found place cells = some (encode c.operation)

private theorem Taken.of_live {ν : Type} {encode : AcceptedOperation → ν}
    {place : JsString → JsString} {cells kept : Cells JsString ν} {now : Instant}
    (hlive : ∀ time, now ≤ time → ∀ key, kept.live time key = cells.live time key)
    (h : Taken encode place c e now cells) : Taken encode place c e now kept := by
  intro time hnow htime
  have := h time hnow htime
  simpa only [ResultCall.found, hlive time hnow] using this

private theorem taken_of_record {ν : Type} {encode : AcceptedOperation → ν}
    {place : JsString → JsString} {cells kept : Cells JsString ν}
    (hlive : ∀ time, c.now ≤ time → ∀ key, kept.live time key = cells.live time key)
    (hfree : c.found place cells = none) :
    Taken encode place c e c.now (c.record encode place e (c.found place cells) kept) := by
  intro time hnow htime
  rw [hfree]
  simp only [ResultCall.found, Option.map_eq_none_iff, Option.or_eq_none_iff] at hfree
  have hgone : ∀ key, cells.live c.now key = none → kept.live time key = none := by
    intro key hkey
    rw [hlive time hnow]
    by_contra hlater
    obtain ⟨cell, hcell⟩ := Option.ne_none_iff_exists'.mp hlater
    rw [Cells.live_of_later hnow hcell] at hkey
    cases hkey
  have hput : (kept.put (place c.resultId) ⟨encode c.operation, e⟩).live time
      (place c.resultId) = some ⟨encode c.operation, e⟩ := by
    simp [htime]
  simp only [ResultCall.found, ResultCall.record, hput]
  cases hlegacy : c.legacyResultId with
  | none => simp
  | some legacy =>
      rw [hlegacy, Option.bind_some] at hfree
      by_cases hkey : place legacy = place c.resultId
      · simp [hkey, htime]
      · simp [Cells.live_put_of_ne kept time _ hkey, hgone _ hfree.1]

private theorem firstIsNew {ν : Type} [DecidableEq ν] {encode : AcceptedOperation → ν}
    {place : JsString → JsString}
    {call : ResultCall AcceptedOperation → Cells JsString ν →
      Except JsError ResultAcceptanceStatus × Cells JsString ν}
    {keep : Instant → Cells JsString ν → Cells JsString ν}
    (hkeep : ∀ now cells time, now ≤ time → ∀ key,
      (keep now cells).live time key = cells.live time key)
    (hcall : ∀ {time cells}, time < e → call { c with now := time } cells =
      acceptFound encode place { c with now := time } e
        (({ c with now := time }).found place cells) (keep time cells))
    (hnow : c.now < e) {times : List Instant} (htimes : ∀ time ∈ times, time < e)
    (hordered : (c.now :: times).Pairwise fun earlier later => earlier ≤ later)
    {cells : Cells JsString ν} (hfree : c.found place cells = none) :
    FirstIsNew ((history call cells (repeated c times)).map Prod.snd) := by
  have hfirst : call c cells = acceptFound encode place c e (c.found place cells)
      (keep c.now cells) := hcall hnow
  have hrecorded : Taken encode place c e c.now (call c cells).2 := by
    rw [hfirst]
    exact taken_of_record (hkeep c.now cells) hfree
  have hnext : ∀ {time cells}, time < e → Taken encode place c e time cells →
      (call { c with now := time } cells).1 = .ok .sameOperation ∧
        Taken encode place c e time (call { c with now := time } cells).2 := by
    intro time cells htime htaken
    rw [hcall htime, htaken time (Int.le_refl time) htime]
    refine ⟨by simp [acceptFound], htaken.of_live fun later hlater key => ?_⟩
    exact hkeep time cells later hlater key
  have hsame := history_same hnext
    (fun h hle later hlater => h later (Int.le_trans hle hlater)) htimes hordered hrecorded
  refine ⟨(history call (call c cells).2
    (times.map fun time => { c with now := time })).map Prod.snd, ?_, ?_⟩
  · simp [repeated, history, hfirst, hfree, acceptFound]
  · exact List.forall_mem_map.mpr hsame

end Atomic

/-! ## The race in PostgreSQL -/

section Race

variable {ι : Type} (c : ResultCall AcceptedOperation) (e : Instant)
  (calledAt startedAt : ι → Instant)

def raceStatement (session : ι) :
    InsertStatement JsString (Cell AcceptedOperation) ResultAcceptanceStatus :=
  acceptStatement { c with now := calledAt session } e (startedAt session)

/-- No session finds an entry of the legacy id, unless it is the result id itself. -/
def LegacyUnclaimed (rows : Cells JsString AcceptedOperation) : Prop :=
  ∀ legacy, c.legacyResultId = some legacy → legacy ≠ c.resultId →
    ∀ session, rows.live (calledAt session) legacy = none

/-- Whatever else happens to the table does not touch the two ids of the call. -/
def LeavesAlone : Event ι JsString (Cell AcceptedOperation) → Prop
  | .elsewhere key _ => key ≠ c.resultId ∧ c.legacyResultId ≠ some key
  | _ => True

/-- An `INSERT` that meets a committed row of the result id belongs to a
statement that began after that commit. -/
def SnapshotCurrent
    (db : Database ι JsString (Cell AcceptedOperation) ResultAcceptanceStatus) :
    Event ι JsString (Cell AcceptedOperation) → Prop
  | .execute session => ∀ snapshot, db.phase session = .started snapshot →
      (db.rows c.resultId).isSome → (snapshot c.resultId).isSome
  | _ => True

/-- One session is told `new` and every other one `same_operation`. -/
def OneNew (db : Database ι JsString (Cell AcceptedOperation) ResultAcceptanceStatus) : Prop :=
  ∃ winner, db.phase winner = .committed .new ∧
    ∀ other, other ≠ winner → db.phase other = .committed .sameOperation

def AllAnswered
    (db : Database ι JsString (Cell AcceptedOperation) ResultAcceptanceStatus) : Prop :=
  ∀ session, ∃ status, db.phase session = .committed status

def acceptedRow : Cell AcceptedOperation := ⟨c.operation, e⟩

variable [DecidableEq ι]

/-- The invariant of a race whose sessions meet only committed rows that they see. -/
structure RaceInvariant
    (db : Database ι JsString (Cell AcceptedOperation) ResultAcceptanceStatus) : Prop where
  consistent : Consistent (raceStatement c e calledAt startedAt) db
  row : ∀ found, db.rows c.resultId = some found → found = acceptedRow c e
  legacy : LegacyUnclaimed c calledAt db.rows
  snapshot : ∀ session snapshot,
    (db.phase session = .started snapshot ∨
      ∃ inserted, db.phase session = .executed snapshot inserted) →
    (∀ found, snapshot c.resultId = some found →
      found = acceptedRow c e ∧ db.rows c.resultId = some found) ∧
    LegacyUnclaimed c calledAt snapshot
  told : ∀ session snapshot, db.phase session = .executed snapshot false →
    snapshot c.resultId = some (acceptedRow c e)
  answered : ∀ session status, db.phase session = .committed status →
    (status = .new ∨ status = .sameOperation) ∧ (db.rows c.resultId).isSome
  winner : (db.rows c.resultId).isSome → ∃ session, db.phase session = .committed .new
  unique : ∀ session other, db.phase session = .committed .new →
    db.phase other = .committed .new → session = other

namespace RaceInvariant

variable {c e calledAt startedAt}
  {db next : Database ι JsString (Cell AcceptedOperation) ResultAcceptanceStatus}
  {session : ι}

omit [DecidableEq ι] in
theorem initial {rows : Cells JsString AcceptedOperation} (hrow : rows c.resultId = none)
    (hlegacy : LegacyUnclaimed c calledAt rows) :
    RaceInvariant c e calledAt startedAt (Database.initial rows) where
  consistent := Consistent.initial rows
  row found h := by
    change rows c.resultId = some found at h
    rw [hrow] at h
    cases h
  legacy := hlegacy
  snapshot session snapshot h := by
    rcases h with h | ⟨_, h⟩ <;> cases h
  told _ _ h := by cases h
  answered _ _ h := by cases h
  winner h := by
    change (rows c.resultId).isSome = true at h
    rw [hrow] at h
    cases h
  unique _ _ h := by cases h

omit [DecidableEq ι] in
theorem answer_told (hcalled : calledAt session < e) (hstarted : startedAt session < e)
    {snapshot : Cells JsString AcceptedOperation}
    (h : snapshot c.resultId = some (acceptedRow c e)) :
    (raceStatement c e calledAt startedAt session).answer snapshot false = .sameOperation := by
  have hlive : ∀ time, time < e → snapshot.live time c.resultId = some (acceptedRow c e) :=
    fun time htime => Cells.live_eq_some.mpr ⟨h, htime⟩
  unfold raceStatement acceptStatement
  cases hlegacy : c.legacyResultId with
  | none => simp [hlive _ hstarted, acceptedRow]
  | some legacy => simp [hlive _ hcalled, acceptedRow]

omit [DecidableEq ι] in
theorem answer_unseen {snapshot : Cells JsString AcceptedOperation}
    (h : snapshot c.resultId = none) (hlegacy : LegacyUnclaimed c calledAt snapshot) :
    (raceStatement c e calledAt startedAt session).offers snapshot = true ∧
      (raceStatement c e calledAt startedAt session).answer snapshot false = .replay := by
  have hlive : ∀ time, snapshot.live time c.resultId = none := by
    intro time
    simp [Cells.live, h]
  unfold raceStatement acceptStatement
  cases hid : c.legacyResultId with
  | none => simp [hlive]
  | some legacy =>
      have hnone : snapshot.live (calledAt session) legacy = none := by
        by_cases hne : legacy = c.resultId
        · rw [hne]
          exact hlive _
        · exact hlegacy legacy hid hne session
      simp [hlive, hnone]

theorem start (h : RaceInvariant c e calledAt startedAt db)
    (hstep : step (raceStatement c e calledAt startedAt) db (.start session) = some next) :
    RaceInvariant c e calledAt startedAt next := by
  have hconsistent := h.consistent.step hstep
  obtain ⟨hidle, rfl⟩ := start_cases hstep
  -- apart from the new snapshot every phase is as it was
  have hcommitted : ∀ other status,
      Function.update db.phase session (.started db.rows) other = .committed status ↔
        db.phase other = .committed status := by
    intro other status
    by_cases hother : other = session
    · subst hother
      simp [hidle]
    · rw [Function.update_of_ne hother]
  refine
    { consistent := hconsistent
      row := h.row
      legacy := h.legacy
      snapshot := fun other snapshot hphase => ?_
      told := fun other snapshot hphase => ?_
      answered := fun other status hphase => h.answered other status ((hcommitted _ _).mp hphase)
      winner := fun hrow => ?_
      unique := fun other third hother hthird =>
        h.unique other third ((hcommitted _ _).mp hother) ((hcommitted _ _).mp hthird) }
  · by_cases hother : other = session
    · subst hother
      have hsnapshot : snapshot = db.rows := by
        rcases hphase with hphase | ⟨_, hphase⟩
        · simpa using hphase.symm
        · simp at hphase
      subst hsnapshot
      exact ⟨fun found hfound => ⟨h.row found hfound, hfound⟩, h.legacy⟩
    · simp only [Function.update_of_ne hother] at hphase
      exact h.snapshot other snapshot hphase
  · by_cases hother : other = session
    · subst hother
      simp at hphase
    · simp only [Function.update_of_ne hother] at hphase
      exact h.told other snapshot hphase
  · obtain ⟨winner, hwinner⟩ := h.winner hrow
    exact ⟨winner, (hcommitted _ _).mpr hwinner⟩

/-- A phase between `started` and `committed` is replaced by `executed`. -/
private theorem setExecuted (h : RaceInvariant c e calledAt startedAt db)
    {snapshot : Cells JsString AcceptedOperation} (hstarted : db.phase session = .started snapshot)
    {inserted : Bool} {locks : JsString → Option ι}
    (htold : inserted = false → snapshot c.resultId = some (acceptedRow c e))
    (hconsistent : Consistent (raceStatement c e calledAt startedAt)
      { db with
        locks
        phase := Function.update db.phase session (.executed snapshot inserted) }) :
    RaceInvariant c e calledAt startedAt
      { db with
        locks
        phase := Function.update db.phase session (.executed snapshot inserted) } := by
  have hcommitted : ∀ other status,
      Function.update db.phase session (.executed snapshot inserted) other =
        .committed status ↔ db.phase other = .committed status := by
    intro other status
    by_cases hother : other = session
    · subst hother
      simp [hstarted]
    · rw [Function.update_of_ne hother]
  refine
    { consistent := hconsistent
      row := h.row
      legacy := h.legacy
      snapshot := fun other otherSnapshot hphase => ?_
      told := fun other otherSnapshot hphase => ?_
      answered := fun other status hphase => h.answered other status ((hcommitted _ _).mp hphase)
      winner := fun hrow => ?_
      unique := fun other third hother hthird =>
        h.unique other third ((hcommitted _ _).mp hother) ((hcommitted _ _).mp hthird) }
  · by_cases hother : other = session
    · subst hother
      have hsnapshot : otherSnapshot = snapshot := by
        rcases hphase with hphase | ⟨_, hphase⟩
        · simp at hphase
        · simp only [Function.update_self, Phase.executed.injEq] at hphase
          exact hphase.1.symm
      subst hsnapshot
      exact h.snapshot other otherSnapshot (Or.inl hstarted)
    · simp only [Function.update_of_ne hother] at hphase
      exact h.snapshot other otherSnapshot hphase
  · by_cases hother : other = session
    · subst hother
      simp only [Function.update_self, Phase.executed.injEq] at hphase
      rw [← hphase.1]
      exact htold hphase.2
    · simp only [Function.update_of_ne hother] at hphase
      exact h.told other otherSnapshot hphase
  · obtain ⟨winner, hwinner⟩ := h.winner hrow
    exact ⟨winner, (hcommitted _ _).mpr hwinner⟩

theorem execute (h : RaceInvariant c e calledAt startedAt db)
    (hcurrent : SnapshotCurrent c db (.execute session))
    (hstep : step (raceStatement c e calledAt startedAt) db (.execute session) = some next) :
    RaceInvariant c e calledAt startedAt next := by
  have hconsistent := h.consistent.step hstep
  obtain ⟨snapshot, hstarted, ⟨_, _, _, rfl⟩ | ⟨hrefused, rfl⟩⟩ := execute_cases hstep
  · exact h.setExecuted hstarted (fun hfalse => by cases hfalse) hconsistent
  · refine h.setExecuted hstarted (fun _ => ?_) hconsistent
    have hsnapshot := h.snapshot session snapshot (Or.inl hstarted)
    have hseen : (snapshot c.resultId).isSome := by
      by_contra hunseen
      rw [Option.not_isSome_iff_eq_none] at hunseen
      rcases hrefused with hoffers | ⟨row, hrow⟩
      · rw [(answer_unseen hunseen hsnapshot.2).1] at hoffers
        cases hoffers
      · have := hcurrent snapshot hstarted (by
          change db.rows c.resultId = some row at hrow
          simp [hrow])
        simp [hunseen] at this
    obtain ⟨found, hfound⟩ := Option.isSome_iff_exists.mp hseen
    rw [hfound, (hsnapshot.1 found hfound).1]

private theorem commit_inserted (h : RaceInvariant c e calledAt startedAt db)
    {snapshot : Cells JsString AcceptedOperation}
    (hexecuted : db.phase session = .executed snapshot true)
    {locks : JsString → Option ι}
    (hconsistent : Consistent (raceStatement c e calledAt startedAt)
      { rows := Function.update db.rows c.resultId (some (acceptedRow c e))
        locks
        phase := Function.update db.phase session (.committed .new) }) :
    RaceInvariant c e calledAt startedAt
      { rows := Function.update db.rows c.resultId (some (acceptedRow c e))
        locks
        phase := Function.update db.phase session (.committed .new) } := by
  -- the row was absent, so no session has seen it and none has been answered
  have habsent : db.rows c.resultId = none :=
    h.consistent.absent c.resultId session (h.consistent.locked session snapshot hexecuted)
  have hunanswered : ∀ other status, db.phase other ≠ .committed status := by
    intro other status hother
    have := (h.answered other status hother).2
    simp [habsent] at this
  have honly : ∀ other status, Function.update db.phase session (.committed .new) other =
      .committed status → other = session := by
    intro other status hother
    by_contra hne
    rw [Function.update_of_ne hne] at hother
    exact hunanswered other status hother
  refine
    { consistent := hconsistent
      row := fun found hfound => by simpa using hfound.symm
      legacy := fun legacy hlegacy hne other => ?_
      snapshot := fun other otherSnapshot hphase => ?_
      told := fun other otherSnapshot hphase => ?_
      answered := fun other status hother => ⟨Or.inl ?_, by simp⟩
      winner := fun _ => ⟨session, by simp⟩
      unique := fun other third hother hthird =>
        (honly other _ hother).trans (honly third _ hthird).symm }
  · have := h.legacy legacy hlegacy hne other
    simpa [Cells.live, Function.update_of_ne hne] using this
  · by_cases hother : other = session
    · subst hother
      rcases hphase with hphase | ⟨_, hphase⟩ <;> simp at hphase
    · simp only [Function.update_of_ne hother] at hphase
      obtain ⟨hseen, hlegacy⟩ := h.snapshot other otherSnapshot hphase
      refine ⟨fun found hfound => ?_, hlegacy⟩
      have := (hseen found hfound).2
      rw [habsent] at this
      cases this
  · by_cases hother : other = session
    · subst hother
      simp at hphase
    · simp only [Function.update_of_ne hother] at hphase
      exact h.told other otherSnapshot hphase
  · have hother' := honly other status hother
    subst hother'
    simpa using hother.symm

private theorem commit_told (h : RaceInvariant c e calledAt startedAt db)
    {snapshot : Cells JsString AcceptedOperation}
    (hexecuted : db.phase session = .executed snapshot false)
    (hconsistent : Consistent (raceStatement c e calledAt startedAt)
      { db with phase := Function.update db.phase session (.committed .sameOperation) }) :
    RaceInvariant c e calledAt startedAt
      { db with phase := Function.update db.phase session (.committed .sameOperation) } := by
  have hpresent : (db.rows c.resultId).isSome := by
    have hseen := (h.snapshot session snapshot (Or.inr ⟨false, hexecuted⟩)).1 _
      (h.told session snapshot hexecuted)
    simp [hseen.2]
  have hkept : ∀ other phase, other ≠ session ∨ phase = .committed .new →
      (Function.update db.phase session (.committed .sameOperation) other = phase ↔
        other ≠ session ∧ db.phase other = phase) := by
    intro other phase hor
    by_cases hother : other = session
    · subst hother
      rcases hor with hor | rfl <;> simp at *
    · rw [Function.update_of_ne hother]
      simp [hother]
  refine
    { consistent := hconsistent
      row := h.row
      legacy := h.legacy
      snapshot := fun other otherSnapshot hphase => ?_
      told := fun other otherSnapshot hphase => ?_
      answered := fun other status hother => ⟨?_, hpresent⟩
      winner := fun hrow => ?_
      unique := fun other third hother hthird =>
        h.unique other third ((hkept _ _ (Or.inr rfl)).mp hother).2
          ((hkept _ _ (Or.inr rfl)).mp hthird).2 }
  · by_cases hother : other = session
    · subst hother
      rcases hphase with hphase | ⟨_, hphase⟩ <;> simp at hphase
    · simp only [Function.update_of_ne hother] at hphase
      exact h.snapshot other otherSnapshot hphase
  · by_cases hother : other = session
    · subst hother
      simp at hphase
    · simp only [Function.update_of_ne hother] at hphase
      exact h.told other otherSnapshot hphase
  · by_cases hother' : other = session
    · subst hother'
      exact Or.inr (by simpa using hother.symm)
    · simp only [Function.update_of_ne hother'] at hother
      exact (h.answered other status hother).1
  · obtain ⟨winner, hwinner⟩ := h.winner hrow
    refine ⟨winner, (hkept _ _ (Or.inr rfl)).mpr ⟨?_, hwinner⟩⟩
    rintro rfl
    rw [hexecuted] at hwinner
    cases hwinner

theorem commit (h : RaceInvariant c e calledAt startedAt db)
    (hcalled : calledAt session < e) (hstarted : startedAt session < e)
    (hstep : step (raceStatement c e calledAt startedAt) db (.commit session) = some next) :
    RaceInvariant c e calledAt startedAt next := by
  have hconsistent := h.consistent.step hstep
  obtain ⟨snapshot, inserted, hexecuted, rfl⟩ := commit_cases hstep
  cases inserted with
  | true => exact h.commit_inserted hexecuted hconsistent
  | false =>
      have hanswer := answer_told hcalled hstarted (h.told session snapshot hexecuted)
      rw [hanswer] at hconsistent ⊢
      exact h.commit_told hexecuted hconsistent

theorem elsewhere (h : RaceInvariant c e calledAt startedAt db) {key : JsString}
    {row : Option (Cell AcceptedOperation)}
    (halone : LeavesAlone c (.elsewhere key row : Event ι _ _))
    (hstep : step (raceStatement c e calledAt startedAt) db (.elsewhere key row) = some next) :
    RaceInvariant c e calledAt startedAt next := by
  have hconsistent := h.consistent.step hstep
  obtain ⟨_, rfl⟩ := elsewhere_cases hstep
  have hrow : Function.update db.rows key row c.resultId = db.rows c.resultId :=
    Function.update_of_ne halone.1.symm row db.rows
  refine
    { consistent := hconsistent
      row := fun found hfound => h.row found (hrow ▸ hfound)
      legacy := fun legacy hlegacy hne session => ?_
      snapshot := fun session snapshot hphase => ?_
      told := h.told
      answered := fun session status hphase => ?_
      winner := fun hpresent => h.winner (hrow ▸ hpresent)
      unique := h.unique }
  · have hkey : legacy ≠ key := by
      rintro rfl
      exact halone.2 hlegacy
    simpa [Cells.live, Function.update_of_ne hkey] using h.legacy legacy hlegacy hne session
  · obtain ⟨hseen, hlegacy⟩ := h.snapshot session snapshot hphase
    exact ⟨fun found hfound => ⟨(hseen found hfound).1, hrow.trans (hseen found hfound).2⟩,
      hlegacy⟩
  · obtain ⟨hstatus, hpresent⟩ := h.answered session status hphase
    exact ⟨hstatus, by simpa only [hrow] using hpresent⟩

theorem step (hcalled : ∀ session, calledAt session < e)
    (hstarted : ∀ session, startedAt session < e)
    (h : RaceInvariant c e calledAt startedAt db) {event : Event ι _ _}
    (halone : LeavesAlone c event) (hcurrent : SnapshotCurrent c db event)
    (hstep : ReadCommitted.step (raceStatement c e calledAt startedAt) db event = some next) :
    RaceInvariant c e calledAt startedAt next := by
  cases event with
  | start session => exact h.start hstep
  | execute session => exact h.execute hcurrent hstep
  | commit session => exact h.commit (hcalled session) (hstarted session) hstep
  | elsewhere key row => exact h.elsewhere halone hstep

omit [DecidableEq ι] in
theorem oneNew [Nonempty ι] (h : RaceInvariant c e calledAt startedAt db)
    (hall : AllAnswered db) :
    OneNew db := by
  obtain ⟨someone⟩ := ‹Nonempty ι›
  obtain ⟨status, hstatus⟩ := hall someone
  obtain ⟨winner, hwinner⟩ := h.winner (h.answered someone status hstatus).2
  refine ⟨winner, hwinner, fun other hother => ?_⟩
  obtain ⟨status, hstatus⟩ := hall other
  rcases (h.answered other status hstatus).1 with rfl | rfl
  · exact absurd (h.unique other winner hstatus hwinner) hother
  · exact hstatus

end RaceInvariant

variable {c e calledAt startedAt}
  {db next : Database ι JsString (Cell AcceptedOperation) ResultAcceptanceStatus}

/-- A run whose sessions see the rows that stop them gives one answer `new`. -/
theorem race_oneNew [Nonempty ι] (hcalled : ∀ session, calledAt session < e)
    (hstarted : ∀ session, startedAt session < e)
    (h : RaceInvariant c e calledAt startedAt db)
    {events : List (Event ι JsString (Cell AcceptedOperation))}
    (halone : ∀ event ∈ events, LeavesAlone c event)
    (hcurrent : (machine (raceStatement c e calledAt startedAt)).Along (SnapshotCurrent c)
      db events)
    (hrun : (machine (raceStatement c e calledAt startedAt)).run db events = some next)
    (hall : AllAnswered next) : OneNew next := by
  induction events generalizing db with
  | nil =>
      cases hrun
      exact h.oneNew hall
  | cons event events ih =>
      obtain ⟨middle, hstep, hrest⟩ := (Machine.run_cons_some _).mp hrun
      exact ih (h.step hcalled hstarted (halone event List.mem_cons_self) hcurrent.1 hstep)
        (fun other hother => halone other (List.mem_cons_of_mem event hother))
        (hcurrent.2 middle hstep) hrest

/-- A session stopped by a row that it does not see is told `replay`. -/
theorem race_replay (h : RaceInvariant c e calledAt startedAt db)
    {event : Event ι JsString (Cell AcceptedOperation)}
    (hblind : ¬ SnapshotCurrent c db event)
    (hstep : step (raceStatement c e calledAt startedAt) db event = some next) :
    ∃ session, Bound (raceStatement c e calledAt startedAt) next session .replay := by
  cases event with
  | start session => exact absurd trivial hblind
  | commit session => exact absurd trivial hblind
  | elsewhere key row => exact absurd trivial hblind
  | execute session =>
      simp only [SnapshotCurrent, not_forall] at hblind
      obtain ⟨snapshot, hstarted, hrow, hunseen⟩ := hblind
      rw [Option.not_isSome_iff_eq_none] at hunseen
      have hlegacy := (h.snapshot session snapshot (Or.inl hstarted)).2
      have hanswer :
          (raceStatement c e calledAt startedAt session).answer snapshot false = .replay :=
        (RaceInvariant.answer_unseen hunseen hlegacy).2
      obtain ⟨other, hother, ⟨_, _, habsent, _⟩ | ⟨_, rfl⟩⟩ := execute_cases hstep
      · change db.rows c.resultId = none at habsent
        simp [habsent] at hrow
      · rw [hstarted] at hother
        cases hother
        exact ⟨session, Or.inl ⟨snapshot, false, by simp, hanswer⟩⟩

/-- Exactly the runs whose sessions see the rows that stop them give one answer `new`
and no `replay`. -/
theorem race_oneNew_iff [Nonempty ι] (hcalled : ∀ session, calledAt session < e)
    (hstarted : ∀ session, startedAt session < e)
    (h : RaceInvariant c e calledAt startedAt db)
    {events : List (Event ι JsString (Cell AcceptedOperation))}
    (halone : ∀ event ∈ events, LeavesAlone c event)
    (hrun : (machine (raceStatement c e calledAt startedAt)).run db events = some next)
    (hall : AllAnswered next) :
    OneNew next ↔ (machine (raceStatement c e calledAt startedAt)).Along (SnapshotCurrent c)
      db events := by
  refine ⟨fun hone => ?_, fun hcurrent =>
    race_oneNew hcalled hstarted h halone hcurrent hrun hall⟩
  induction events generalizing db with
  | nil => trivial
  | cons event events ih =>
      obtain ⟨middle, hstep, hrest⟩ := (Machine.run_cons_some _).mp hrun
      have hevent : SnapshotCurrent c db event := by
        by_contra hblind
        obtain ⟨session, hbound⟩ := race_replay h hblind hstep
        have hfinal := hbound.run hrest
        obtain ⟨winner, hwinner, hothers⟩ := hone
        by_cases hsession : session = winner
        · subst hsession
          exact absurd (hfinal.committed hwinner) (by simp)
        · exact absurd (hfinal.committed (hothers session hsession)) (by simp)
      refine ⟨hevent, fun other hother => ?_⟩
      change step (raceStatement c e calledAt startedAt) db event = some other at hother
      rw [show step _ db event = some middle from hstep] at hother
      cases hother
      exact ih (h.step hcalled hstarted (halone event List.mem_cons_self) hevent hstep)
        (fun other hother => halone other (List.mem_cons_of_mem event hother)) hrest

end Race

/-! ## No false replay -/

/-- Calls of one operation, one after the other and before the expiry, on ids
that nobody has claimed. -/
def SequentialFirstIsNew {σ ν : Type} (call : ResultCall AcceptedOperation → σ →
      Except JsError ResultAcceptanceStatus × σ) (cellsOf : σ → Cells JsString ν)
    (place : JsString → JsString) (c : ResultCall AcceptedOperation) (e : Instant) : Prop :=
  ∀ (times : List Instant) (s : σ), c.now < e → (∀ time ∈ times, time < e) →
    (c.now :: times).Pairwise (fun earlier later => earlier ≤ later) →
    c.found place (cellsOf s) = none →
    FirstIsNew ((history call s (repeated c times)).map Prod.snd)

/-- A complete race of sessions that run the same call before the expiry, on ids
that nobody has claimed. -/
structure Race {ι : Type} [DecidableEq ι] (c : ResultCall AcceptedOperation) (e : Instant)
    (calledAt startedAt : ι → Instant) (rows : Cells JsString AcceptedOperation)
    (events : List (Event ι JsString (Cell AcceptedOperation)))
    (last : Database ι JsString (Cell AcceptedOperation) ResultAcceptanceStatus) : Prop where
  called : ∀ session, calledAt session < e
  started : ∀ session, startedAt session < e
  unclaimed : rows c.resultId = none
  legacyUnclaimed : LegacyUnclaimed c calledAt rows
  alone : ∀ event ∈ events, LeavesAlone c event
  run : (machine (raceStatement c e calledAt startedAt)).run (Database.initial rows) events =
    some last
  complete : AllAnswered last

/-- No call of the operation is told `replay`, in any of the three backends. -/
structure NoFalseReplay (keyPrefix : JsString) (c : ResultCall AcceptedOperation)
    (e : Instant) : Prop where
  inMemory : SequentialFirstIsNew inMemoryResultAcceptanceStore.call id id c e
  redis : SequentialFirstIsNew (RedisX424Store.resultAcceptances keyPrefix).call id
    (redisKey keyPrefix (js "acceptance")) c e
  postgres : ∀ {ι : Type} [DecidableEq ι] [Nonempty ι] {calledAt startedAt : ι → Instant}
    {rows events last}, Race c e calledAt startedAt rows events last → OneNew last

/-- No call is told `replay`, except that PostgreSQL has to meet its condition. -/
structure NoFalseReplayWhenCurrent (keyPrefix : JsString) (c : ResultCall AcceptedOperation)
    (e : Instant) : Prop where
  inMemory : SequentialFirstIsNew inMemoryResultAcceptanceStore.call id id c e
  redis : SequentialFirstIsNew (RedisX424Store.resultAcceptances keyPrefix).call id
    (redisKey keyPrefix (js "acceptance")) c e
  postgres : ∀ {ι : Type} [DecidableEq ι] [Nonempty ι] {calledAt startedAt : ι → Instant}
    {rows events last}, Race c e calledAt startedAt rows events last →
      (OneNew last ↔ (machine (raceStatement c e calledAt startedAt)).Along
        (SnapshotCurrent c) (Database.initial rows) events)

namespace TwoSessions

def call : ResultCall AcceptedOperation where
  resultId := js "r1"
  legacyResultId := none
  operation := Migration.operation "k1"
  expiresAt := some 1000
  now := 0

def events : List (Event Bool JsString (Cell AcceptedOperation)) :=
  [.start false, .start true, .execute false, .commit false, .execute true, .commit true]

end TwoSessions

/-- Two sessions that begin together: the second meets a row that it does not see. -/
theorem accept_false_replay :
    ∃ (keyPrefix : JsString) (c : ResultCall AcceptedOperation) (e : Instant),
      c.expiresAt = some e ∧ acceptanceAdmits c.claim = true ∧
      ¬ NoFalseReplay keyPrefix c e := by
  refine ⟨js "x424", TwoSessions.call, 1000, rfl, by decide, fun h => ?_⟩
  have hanswers : ((machine (raceStatement TwoSessions.call 1000 (fun _ => 0) fun _ => 0)).run
      (Database.initial Cells.empty) TwoSessions.events).map
        (fun last => ((last.phase false).answer?, (last.phase true).answer?)) =
      some (some .new, some .replay) := by decide
  obtain ⟨last, hrun, hphases⟩ := Option.map_eq_some_iff.mp hanswers
  rw [Prod.mk.injEq, Phase.answer?_eq_some, Phase.answer?_eq_some] at hphases
  obtain ⟨hfirst, hsecond⟩ := hphases
  have hrace : Race TwoSessions.call 1000 (fun _ => 0) (fun _ => 0) Cells.empty
      TwoSessions.events last :=
    { called := fun _ => by decide
      started := fun _ => by decide
      unclaimed := rfl
      legacyUnclaimed := fun legacy hlegacy => by cases hlegacy
      alone := by simp [TwoSessions.events, LeavesAlone]
      run := hrun
      complete := fun session => by
        cases session
        · exact ⟨_, hfirst⟩
        · exact ⟨_, hsecond⟩ }
  have hone : OneNew last := h.postgres hrace
  obtain ⟨winner, hwinner, hothers⟩ := hone
  cases winner with
  | false =>
      rw [hothers true (by decide)] at hsecond
      cases hsecond
  | true =>
      rw [hsecond] at hwinner
      cases hwinner

theorem accept_no_false_replay (keyPrefix : JsString) {c : ResultCall AcceptedOperation}
    {e : Instant} (hexpires : c.expiresAt = some e)
    (hadmits : acceptanceAdmits c.claim = true) :
    NoFalseReplayWhenCurrent keyPrefix c e where
  inMemory times s hnow htimes hordered hfree := by
    have hcall : ∀ {time : Instant} {cells : Cells JsString AcceptedOperation}, time < e →
        inMemoryResultAcceptanceStore.call { c with now := time } cells =
          acceptFound id id { c with now := time } e
            (({ c with now := time }).found id cells) (cells.prune time) := by
      intro time cells htime
      rw [inMemoryAcceptance_call (c := { c with now := time }) _ hexpires htime]
      exact if_pos hadmits
    exact firstIsNew (fun now cells time hle key => Cells.live_prune cells hle key) hcall
      hnow htimes hordered hfree
  redis times s hnow htimes hordered hfree := by
    have hcall : ∀ {time : Instant} {cells : RedisDb}, time < e →
        (RedisX424Store.resultAcceptances keyPrefix).call { c with now := time } cells =
          acceptFound AcceptedOperation.canonicalJson (redisKey keyPrefix (js "acceptance"))
            { c with now := time } e
            (({ c with now := time }).found (redisKey keyPrefix (js "acceptance")) cells)
            cells := by
      intro time cells htime
      rw [redisAcceptance_call (c := { c with now := time }) _ hexpires htime]
      exact if_pos hadmits
    exact firstIsNew (fun _ _ _ _ _ => rfl) hcall hnow htimes hordered hfree
  postgres hrace :=
    race_oneNew_iff hrace.called hrace.started
      (RaceInvariant.initial hrace.unclaimed hrace.legacyUnclaimed) hrace.alone hrace.run
      hrace.complete

theorem accept_no_false_replay_twoSessions :
    NoFalseReplayWhenCurrent (js "x424") TwoSessions.call 1000 :=
  accept_no_false_replay (js "x424") rfl (by decide)

end X424
