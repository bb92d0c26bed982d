import Mathlib.Logic.Function.Basic
import X424.Foundation.Machine

/-!
# Single statements under READ COMMITTED

A table with a primary key is shared by sessions that each run one statement.
The statement reads a snapshot taken when it begins.  Its
`INSERT ... ON CONFLICT DO NOTHING` sees more than the snapshot: it waits while
another session holds an uncommitted row under the same key, and gives way to a
committed one.  The statement's own reads, and so its answer, stay with the
snapshot.
-/

namespace X424.Foundation

structure InsertStatement (κ ν α : Type*) where
  key : κ
  row : ν
  /-- Whether the `INSERT` has a row to insert. -/
  offers : (snapshot : κ → Option ν) → Bool
  answer : (snapshot : κ → Option ν) → (inserted : Bool) → α

namespace ReadCommitted

inductive Phase (κ ν α : Type*) where
  | idle
  | started (snapshot : κ → Option ν)
  | executed (snapshot : κ → Option ν) (inserted : Bool)
  | committed (answer : α)

def Phase.answer? {κ ν α : Type*} : Phase κ ν α → Option α
  | .committed answer => some answer
  | _ => none

theorem Phase.answer?_eq_some {κ ν α : Type*} {phase : Phase κ ν α} {answer : α} :
    phase.answer? = some answer ↔ phase = .committed answer := by
  cases phase <;> simp [answer?]

structure Database (ι κ ν α : Type*) where
  rows : κ → Option ν
  locks : κ → Option ι
  phase : ι → Phase κ ν α

inductive Event (ι κ ν : Type*) where
  | start (session : ι)
  | execute (session : ι)
  | commit (session : ι)
  | elsewhere (key : κ) (row : Option ν)

variable {ι κ ν α : Type*}

def Database.initial (rows : κ → Option ν) : Database ι κ ν α :=
  ⟨rows, fun _ => none, fun _ => .idle⟩

variable [DecidableEq ι] [DecidableEq κ] (statement : ι → InsertStatement κ ν α)

def step (db : Database ι κ ν α) : Event ι κ ν → Option (Database ι κ ν α)
  | .start session =>
      match db.phase session with
      | .idle =>
          some { db with phase := Function.update db.phase session (.started db.rows) }
      | _ => none
  | .execute session =>
      match db.phase session with
      | .started snapshot =>
          let key := (statement session).key
          if (statement session).offers snapshot then
            if (db.locks key).isSome then none
            else if (db.rows key).isSome then
              some { db with
                phase := Function.update db.phase session (.executed snapshot false) }
            else
              some { db with
                locks := Function.update db.locks key (some session)
                phase := Function.update db.phase session (.executed snapshot true) }
          else
            some { db with
              phase := Function.update db.phase session (.executed snapshot false) }
      | _ => none
  | .commit session =>
      match db.phase session with
      | .executed snapshot inserted =>
          let phase := Function.update db.phase session
            (.committed ((statement session).answer snapshot inserted))
          if inserted then
            some { rows := Function.update db.rows (statement session).key
                     (some (statement session).row)
                   locks := Function.update db.locks (statement session).key none
                   phase }
          else some { db with phase }
      | _ => none
  | .elsewhere key row =>
      if (db.locks key).isSome then none
      else some { db with rows := Function.update db.rows key row }

def machine : Machine (Database ι κ ν α) (Event ι κ ν) := ⟨step statement⟩

section Cases

variable {statement} {db next : Database ι κ ν α} {session : ι}

theorem start_cases (h : step statement db (.start session) = some next) :
    db.phase session = .idle ∧
      next = { db with phase := Function.update db.phase session (.started db.rows) } := by
  simp only [step] at h
  split at h
  · next hidle => exact ⟨hidle, by simpa using h.symm⟩
  · cases h

/-- An `INSERT` inserts, or finds nothing to insert, or gives way to a committed row. -/
theorem execute_cases (h : step statement db (.execute session) = some next) :
    ∃ snapshot, db.phase session = .started snapshot ∧
      (((statement session).offers snapshot = true ∧
          db.locks (statement session).key = none ∧
          db.rows (statement session).key = none ∧
          next = { db with
            locks := Function.update db.locks (statement session).key (some session)
            phase := Function.update db.phase session (.executed snapshot true) }) ∨
        (((statement session).offers snapshot = false ∨
            ∃ row, db.rows (statement session).key = some row) ∧
          next = { db with
            phase := Function.update db.phase session (.executed snapshot false) })) := by
  simp only [step] at h
  split at h
  · next snapshot hstarted =>
      refine ⟨snapshot, hstarted, ?_⟩
      split_ifs at h with hoffers hlocked hpresent
      · exact Or.inr ⟨Or.inr (Option.isSome_iff_exists.mp hpresent), by simpa using h.symm⟩
      · exact Or.inl ⟨hoffers, Option.not_isSome_iff_eq_none.mp hlocked,
          Option.not_isSome_iff_eq_none.mp hpresent, by simpa using h.symm⟩
      · exact Or.inr ⟨Or.inl (by simpa using hoffers), by simpa using h.symm⟩
  · cases h

theorem commit_cases (h : step statement db (.commit session) = some next) :
    ∃ snapshot inserted, db.phase session = .executed snapshot inserted ∧
      next = { rows := if inserted then
                 Function.update db.rows (statement session).key
                   (some (statement session).row) else db.rows
               locks := if inserted then
                 Function.update db.locks (statement session).key none else db.locks
               phase := Function.update db.phase session
                 (.committed ((statement session).answer snapshot inserted)) } := by
  simp only [step] at h
  split at h
  · next snapshot inserted hexecuted =>
      refine ⟨snapshot, inserted, hexecuted, ?_⟩
      cases inserted <;> simpa using h.symm
  · cases h

theorem elsewhere_cases {key : κ} {row : Option ν}
    (h : step statement db (.elsewhere key row) = some next) :
    db.locks key = none ∧ next = { db with rows := Function.update db.rows key row } := by
  simp only [step] at h
  split_ifs at h with hlocked
  exact ⟨Option.not_isSome_iff_eq_none.mp hlocked, by simpa using h.symm⟩

end Cases

/-- The uncommitted rows are those of the sessions that have inserted, and none
of them meets a committed row. -/
structure Consistent (db : Database ι κ ν α) : Prop where
  locked : ∀ session snapshot, db.phase session = .executed snapshot true →
    db.locks (statement session).key = some session
  holder : ∀ key session, db.locks key = some session →
    (statement session).key = key ∧ ∃ snapshot, db.phase session = .executed snapshot true
  absent : ∀ key session, db.locks key = some session → db.rows key = none

namespace Consistent

variable {statement} {db next : Database ι κ ν α}

omit [DecidableEq ι] [DecidableEq κ] in
theorem initial (rows : κ → Option ν) : Consistent statement (Database.initial rows) where
  locked _ _ h := by cases h
  holder _ _ h := by cases h
  absent _ _ h := by cases h

omit [DecidableEq κ] in
private theorem setPhase (h : Consistent statement db) {session : ι} {phase : Phase κ ν α}
    (hbefore : ∀ snapshot, db.phase session ≠ .executed snapshot true)
    (hafter : ∀ snapshot, phase ≠ .executed snapshot true) :
    Consistent statement { db with phase := Function.update db.phase session phase } where
  locked other snapshot hother := by
    by_cases hsession : other = session
    · subst hsession
      simp only [Function.update_self] at hother
      exact absurd hother (hafter snapshot)
    · simp only [Function.update_of_ne hsession] at hother
      exact h.locked other snapshot hother
  holder key other hlock := by
    obtain ⟨hkey, snapshot, hother⟩ := h.holder key other hlock
    have hsession : other ≠ session := by
      rintro rfl
      exact hbefore snapshot hother
    exact ⟨hkey, snapshot, by simpa [Function.update_of_ne hsession] using hother⟩
  absent := h.absent

private theorem insert (h : Consistent statement db) {session : ι}
    {snapshot : κ → Option ν} (hstarted : db.phase session = .started snapshot)
    (hlock : db.locks (statement session).key = none)
    (habsent : db.rows (statement session).key = none) :
    Consistent statement { db with
      locks := Function.update db.locks (statement session).key (some session)
      phase := Function.update db.phase session (.executed snapshot true) } where
  locked other otherSnapshot hother := by
    by_cases hsession : other = session
    · subst hsession
      exact Function.update_self _ _ _
    · simp only [Function.update_of_ne hsession] at hother
      have hlocked := h.locked other otherSnapshot hother
      have hkey : (statement other).key ≠ (statement session).key := by
        intro hkey
        rw [hkey, hlock] at hlocked
        cases hlocked
      simpa [Function.update_of_ne hkey] using hlocked
  holder key other hlocked := by
    by_cases hkey : key = (statement session).key
    · subst hkey
      simp only [Function.update_self, Option.some.injEq] at hlocked
      subst hlocked
      exact ⟨rfl, snapshot, Function.update_self _ _ _⟩
    · simp only [Function.update_of_ne hkey] at hlocked
      obtain ⟨hother, otherSnapshot, hexecuted⟩ := h.holder key other hlocked
      have hsession : other ≠ session := by
        rintro rfl
        rw [hstarted] at hexecuted
        cases hexecuted
      exact ⟨hother, otherSnapshot, by simpa [Function.update_of_ne hsession] using hexecuted⟩
  absent key other hlocked := by
    by_cases hkey : key = (statement session).key
    · subst hkey
      exact habsent
    · simp only [Function.update_of_ne hkey] at hlocked
      exact h.absent key other hlocked

private theorem publish (h : Consistent statement db) {session : ι}
    {snapshot : κ → Option ν} (hexecuted : db.phase session = .executed snapshot true)
    (answer : α) :
    Consistent statement
      { rows := Function.update db.rows (statement session).key (some (statement session).row)
        locks := Function.update db.locks (statement session).key none
        phase := Function.update db.phase session (.committed answer) } where
  locked other otherSnapshot hother := by
    by_cases hsession : other = session
    · subst hsession
      simp at hother
    · simp only [Function.update_of_ne hsession] at hother
      have hlocked := h.locked other otherSnapshot hother
      have hkey : (statement other).key ≠ (statement session).key := by
        intro hkey
        rw [hkey, h.locked session snapshot hexecuted, Option.some.injEq] at hlocked
        exact hsession hlocked.symm
      simpa [Function.update_of_ne hkey] using hlocked
  holder key other hlocked := by
    by_cases hkey : key = (statement session).key
    · subst hkey
      simp at hlocked
    · simp only [Function.update_of_ne hkey] at hlocked
      obtain ⟨hother, otherSnapshot, hphase⟩ := h.holder key other hlocked
      have hsession : other ≠ session := by
        rintro rfl
        exact hkey hother.symm
      exact ⟨hother, otherSnapshot, by simpa [Function.update_of_ne hsession] using hphase⟩
  absent key other hlocked := by
    by_cases hkey : key = (statement session).key
    · subst hkey
      simp at hlocked
    · simp only [Function.update_of_ne hkey] at hlocked
      simp only [Function.update_of_ne hkey]
      exact h.absent key other hlocked

theorem step (h : Consistent statement db) {event : Event ι κ ν}
    (hstep : ReadCommitted.step statement db event = some next) : Consistent statement next := by
  cases event with
  | start session =>
      obtain ⟨hidle, rfl⟩ := start_cases hstep
      exact h.setPhase (by simp [hidle]) (by simp)
  | execute session =>
      obtain ⟨snapshot, hstarted, ⟨_, hlock, habsent, rfl⟩ | ⟨_, rfl⟩⟩ := execute_cases hstep
      · exact h.insert hstarted hlock habsent
      · exact h.setPhase (by simp [hstarted]) (by simp)
  | commit session =>
      obtain ⟨snapshot, inserted, hexecuted, rfl⟩ := commit_cases hstep
      cases inserted with
      | true => exact h.publish hexecuted _
      | false => exact h.setPhase (by simp [hexecuted]) (by simp)
  | elsewhere key row =>
      obtain ⟨hlock, rfl⟩ := elsewhere_cases hstep
      refine ⟨h.locked, h.holder, fun other session hlocked => ?_⟩
      have hkey : other ≠ key := by
        rintro rfl
        rw [hlock] at hlocked
        cases hlocked
      simpa [Function.update_of_ne hkey] using h.absent other session hlocked

end Consistent

/-- The session has executed its statement and will answer, or has answered, `answer`. -/
def Bound (db : Database ι κ ν α) (session : ι) (answer : α) : Prop :=
  (∃ snapshot inserted, db.phase session = .executed snapshot inserted ∧
    (statement session).answer snapshot inserted = answer) ∨
  db.phase session = .committed answer

section Bound

variable {statement} {db next : Database ι κ ν α} {session : ι} {answer : α}

omit [DecidableEq ι] [DecidableEq κ] in
theorem Bound.committed (h : Bound statement db session answer) {other : α}
    (hcommitted : db.phase session = .committed other) : other = answer := by
  rcases h with ⟨snapshot, inserted, hexecuted, _⟩ | h
  · rw [hcommitted] at hexecuted
    cases hexecuted
  · rw [hcommitted] at h
    cases h
    rfl

theorem Bound.step (h : Bound statement db session answer) {event : Event ι κ ν}
    (hstep : ReadCommitted.step statement db event = some next) :
    Bound statement next session answer := by
  have hkept : ∀ {other : ι} {phase : Phase κ ν α}, other ≠ session →
      Bound statement { db with phase := Function.update db.phase other phase } session
        answer := by
    intro other phase hne
    simpa [Bound, Function.update_of_ne hne.symm] using h
  cases event with
  | start other =>
      obtain ⟨hidle, rfl⟩ := start_cases hstep
      refine hkept ?_
      rintro rfl
      simp [Bound, hidle] at h
  | execute other =>
      have hne : other ≠ session := by
        rintro rfl
        obtain ⟨snapshot, hstarted, _⟩ := execute_cases hstep
        simp [Bound, hstarted] at h
      obtain ⟨snapshot, _, ⟨_, _, _, rfl⟩ | ⟨_, rfl⟩⟩ := execute_cases hstep
      · simpa [Bound, Function.update_of_ne hne.symm] using h
      · exact hkept hne
  | commit other =>
      obtain ⟨snapshot, inserted, hexecuted, rfl⟩ := commit_cases hstep
      by_cases hne : other = session
      · subst hne
        rcases h with ⟨_, _, hphase, hanswer⟩ | h
        · rw [hexecuted] at hphase
          cases hphase
          exact Or.inr (by simp [hanswer])
        · rw [hexecuted] at h
          cases h
      · simpa [Bound, Function.update_of_ne (Ne.symm hne)] using h
  | elsewhere key row =>
      obtain ⟨_, rfl⟩ := elsewhere_cases hstep
      exact h

theorem Bound.run (h : Bound statement db session answer) {events : List (Event ι κ ν)}
    (hrun : (machine statement).run db events = some next) :
    Bound statement next session answer :=
  (machine statement).invariant_run (I := fun db => Bound statement db session answer)
    (fun _ _ _ hbound hstep => hbound.step hstep) h hrun

end Bound

/-- A statement that runs with no other session in its way reads and writes at once. -/
theorem run_alone (db : Database ι κ ν α) (session : ι) (hidle : db.phase session = .idle)
    (hlock : db.locks (statement session).key = none) :
    ∃ next, (machine statement).run db [.start session, .execute session, .commit session] =
        some next ∧
      next.phase session = .committed ((statement session).answer db.rows
        ((statement session).offers db.rows && (db.rows (statement session).key).isNone)) ∧
      next.rows =
        if (statement session).offers db.rows && (db.rows (statement session).key).isNone then
          Function.update db.rows (statement session).key (some (statement session).row)
        else db.rows := by
  cases hoffers : (statement session).offers db.rows with
  | false =>
      simp [Machine.run_cons, machine, step, hidle, hoffers]
  | true =>
      cases hrow : db.rows (statement session).key with
      | none => simp [Machine.run_cons, machine, step, hidle, hlock, hoffers, hrow]
      | some row => simp [Machine.run_cons, machine, step, hidle, hlock, hoffers, hrow]

end ReadCommitted

end X424.Foundation
