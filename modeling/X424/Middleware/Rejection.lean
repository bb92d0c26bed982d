import X424.Foundation.Refusal
import X424.Middleware.Acceptance
import X424.RequirementLaws
import X424.ResultLaws

/-!
# Rejected presentations

A rejected presentation leaves the stores as they were, apart from entries
that have expired.  The exception is the PostgreSQL requirement store: it
takes a requirement to have expired at the start of the second in which it
does, and deletes it.  A presentation that is made later cannot tell, because
the store would not have shown the requirement to it either.
-/

namespace X424

open Foundation

/-! ## Result stores -/

theorem inMemoryReplay_quiet :
    QuietRefusals
      (fun (call : JsString × IsoTimestamp) => inMemoryResultReplayStore.consume call.1 call.2)
      (fun reply => reply ≠ .ok true) (Cells.AgreeOn fun _ => True) where
  answer := by
    rintro ⟨resultId, expiresAt⟩ checkedAt now s t _ hsame
    simp only [inMemoryResultReplayStore, InMemoryResultReplayStore.consume]
    cases expiresAt with
    | none => rfl
    | some e =>
        have hused : s.prune checkedAt resultId = t.prune checkedAt resultId :=
          hsame.live_eq trivial
        simp only [hused]
        split_ifs <;> rfl
  refused := by
    rintro ⟨resultId, expiresAt⟩ checkedAt now s _
    simp only [inMemoryResultReplayStore, InMemoryResultReplayStore.consume]
    cases expiresAt with
    | none => exact fun _ => .refl _ _ _
    | some e =>
        simp only
        split_ifs
        · exact fun _ => .refl _ _ _
        · exact fun _ key _ time htime => (Cells.live_prune s htime key).symm
        · exact fun hrefused => absurd rfl hrefused

theorem inMemoryAcceptance_quiet :
    QuietRefusals inMemoryResultAcceptanceStore.accept (fun reply => ¬ acceptedReply reply)
      (Cells.AgreeOn fun _ => True) where
  answer := by
    intro input checkedAt now s t _ hsame
    simp only [inMemoryResultAcceptanceStore, InMemoryResultAcceptanceStore.accept]
    cases input.expiresAt with
    | none => rfl
    | some e =>
        have hentry : s.prune checkedAt input.resultId = t.prune checkedAt input.resultId :=
          hsame.live_eq trivial
        simp only [hentry]
        split_ifs
        · rfl
        · cases t.prune checkedAt input.resultId <;> rfl
  refused := by
    intro input checkedAt now s _
    simp only [inMemoryResultAcceptanceStore, InMemoryResultAcceptanceStore.accept]
    cases input.expiresAt with
    | none => exact fun _ => .refl _ _ _
    | some e =>
        simp only
        split_ifs
        · exact fun _ => .refl _ _ _
        · cases s.prune checkedAt input.resultId with
          | some existing => exact fun _ key _ time htime => (Cells.live_prune s htime key).symm
          | none => exact fun hrefused => absurd (Or.inl rfl) hrefused

theorem redisReplay_quiet (keyPrefix : JsString) :
    QuietRefusals
      (fun (call : JsString × IsoTimestamp) =>
        (RedisX424Store.results keyPrefix).consume call.1 call.2)
      (fun reply => reply ≠ .ok true) fun _ s t => s = t := by
  refine quietRefusals_eq fun ⟨resultId, expiresAt⟩ checkedAt now db => ?_
  simp only [RedisX424Store.results, RedisX424Store.consumeResult, RedisTable.setNx]
  cases futureExpiry expiresAt checkedAt with
  | none => exact fun _ => rfl
  | some e =>
      simp only
      split_ifs
      · exact fun _ => rfl
      · exact fun _ => rfl
      · exact fun hrefused => absurd rfl hrefused

theorem redisAcceptance_quiet (keyPrefix : JsString) :
    QuietRefusals (RedisX424Store.resultAcceptances keyPrefix).accept
      (fun reply => ¬ acceptedReply reply) fun _ s t => s = t := by
  refine quietRefusals_eq fun input checkedAt now db => ?_
  simp only [RedisX424Store.resultAcceptances, RedisX424Store.acceptResult, acceptResultScript]
  cases futureExpiry input.expiresAt checkedAt with
  | none => exact fun _ => rfl
  | some e =>
      simp only
      split_ifs
      · exact fun _ => rfl
      · cases RedisTable.get db now _ with
        | some current => exact fun _ => rfl
        | none => exact fun hrefused => absurd (Or.inl rfl) hrefused

theorem postgresReplay_quiet :
    QuietRefusals
      (fun (call : JsString × IsoTimestamp) => PostgresX424Store.results.consume call.1 call.2)
      (fun reply => reply ≠ .ok true) fun _ s t => s = t := by
  refine quietRefusals_eq fun ⟨resultId, expiresAt⟩ checkedAt now rows => ?_
  simp only [PostgresX424Store.results, PostgresX424Store.consumeResult,
    insertOnConflictDoNothing]
  cases expiresAt with
  | none => split_ifs <;> exact fun _ => rfl
  | some e =>
      simp only
      split_ifs
      · exact fun _ => rfl
      · exact fun _ => rfl
      · exact fun hrefused => absurd rfl hrefused

theorem postgresAcceptance_quiet :
    QuietRefusals PostgresX424Store.resultAcceptances.accept
      (fun reply => ¬ acceptedReply reply) fun _ s t => s = t := by
  refine quietRefusals_eq fun input checkedAt now rows => ?_
  simp only [PostgresX424Store.resultAcceptances, PostgresX424Store.acceptResult,
    insertOnConflictDoNothing]
  cases input.expiresAt with
  | none => split_ifs <;> exact fun _ => rfl
  | some e =>
      by_cases hrow : (rows input.resultId).isSome
      · simp only [hrow, if_true, Bool.false_eq_true, if_false]
        split_ifs <;> exact fun _ => rfl
      · rw [Bool.not_eq_true] at hrow
        simp only [hrow, Bool.false_eq_true, if_false, if_true]
        split_ifs
        · exact fun _ => rfl
        · exact fun hrefused => absurd (Or.inl rfl) hrefused

/-- The result stores of the three backends; all keep their entries in cells. -/
inductive ReplayBackend : (ν : Type) → ResultReplayStore (Cells JsString ν) → Prop where
  | inMemory : ReplayBackend Unit inMemoryResultReplayStore
  | redis (keyPrefix : JsString) : ReplayBackend JsString (RedisX424Store.results keyPrefix)
  | postgres : ReplayBackend Unit PostgresX424Store.results

inductive AcceptanceBackend : (ν : Type) → ResultAcceptanceStore (Cells JsString ν) → Prop where
  | inMemory : AcceptanceBackend AcceptedOperation inMemoryResultAcceptanceStore
  | redis (keyPrefix : JsString) :
      AcceptanceBackend JsString (RedisX424Store.resultAcceptances keyPrefix)
  | postgres : AcceptanceBackend AcceptedOperation PostgresX424Store.resultAcceptances

/-- No reader can tell from `now` on. -/
abbrev SameCells {ν : Type} (now : Instant) (s t : Cells JsString ν) : Prop :=
  Cells.AgreeOn (fun _ => True) now s t

theorem sameCells_of_eq {ν : Type} {now : Instant} {s t : Cells JsString ν} (h : s = t) :
    SameCells now s t := by
  subst h
  exact .refl _ _ _

/-- What being the same means to the result stores of a resource server, which may lack them. -/
structure QuietResults {ν ν' : Type} (replays : Option (ResultReplayStore (Cells JsString ν)))
    (acceptances : Option (ResultAcceptanceStore (Cells JsString ν')))
    (SameReplays : Instant → Cells JsString ν → Cells JsString ν → Prop)
    (SameAcceptances : Instant → Cells JsString ν' → Cells JsString ν' → Prop) : Prop where
  replaysFrom : SameFrom SameReplays
  acceptancesFrom : SameFrom SameAcceptances
  replaysAgree : ∀ {now s t}, SameReplays now s t → SameCells now s t
  acceptancesAgree : ∀ {now s t}, SameAcceptances now s t → SameCells now s t
  replays : ∀ store ∈ replays,
    QuietRefusals (fun (call : JsString × IsoTimestamp) => store.consume call.1 call.2)
      (fun reply => reply ≠ .ok true) SameReplays
  acceptances : ∀ store ∈ acceptances,
    QuietRefusals store.accept (fun reply => ¬ acceptedReply reply) SameAcceptances

theorem ReplayBackend.quiet {ν : Type} {store : Option (ResultReplayStore (Cells JsString ν))}
    (h : ∀ backend ∈ store, ReplayBackend ν backend) :
    ∃ Same : Instant → Cells JsString ν → Cells JsString ν → Prop, SameFrom Same ∧
      (∀ {now s t}, Same now s t → SameCells now s t) ∧
      ∀ backend ∈ store,
        QuietRefusals (fun (call : JsString × IsoTimestamp) => backend.consume call.1 call.2)
          (fun reply => reply ≠ .ok true) Same := by
  cases store with
  | none => exact ⟨_, sameFrom_eq, sameCells_of_eq, nofun⟩
  | some backend =>
      cases h backend rfl with
      | inMemory =>
          exact ⟨_, sameFrom_agreeOn, fun hsame => hsame,
            fun _ hmem => Option.mem_some_iff.mp hmem ▸ inMemoryReplay_quiet⟩
      | redis keyPrefix =>
          exact ⟨_, sameFrom_eq, sameCells_of_eq,
            fun _ hmem => Option.mem_some_iff.mp hmem ▸ redisReplay_quiet keyPrefix⟩
      | postgres =>
          exact ⟨_, sameFrom_eq, sameCells_of_eq,
            fun _ hmem => Option.mem_some_iff.mp hmem ▸ postgresReplay_quiet⟩

theorem AcceptanceBackend.quiet {ν : Type}
    {store : Option (ResultAcceptanceStore (Cells JsString ν))}
    (h : ∀ backend ∈ store, AcceptanceBackend ν backend) :
    ∃ Same : Instant → Cells JsString ν → Cells JsString ν → Prop, SameFrom Same ∧
      (∀ {now s t}, Same now s t → SameCells now s t) ∧
      ∀ backend ∈ store,
        QuietRefusals backend.accept (fun reply => ¬ acceptedReply reply) Same := by
  cases store with
  | none => exact ⟨_, sameFrom_eq, sameCells_of_eq, nofun⟩
  | some backend =>
      cases h backend rfl with
      | inMemory =>
          exact ⟨_, sameFrom_agreeOn, fun hsame => hsame,
            fun _ hmem => Option.mem_some_iff.mp hmem ▸ inMemoryAcceptance_quiet⟩
      | redis keyPrefix =>
          exact ⟨_, sameFrom_eq, sameCells_of_eq,
            fun _ hmem => Option.mem_some_iff.mp hmem ▸ redisAcceptance_quiet keyPrefix⟩
      | postgres =>
          exact ⟨_, sameFrom_eq, sameCells_of_eq,
            fun _ hmem => Option.mem_some_iff.mp hmem ▸ postgresAcceptance_quiet⟩

/-! ## Requirement stores -/

/--
What presentations do to a requirement store: `get` leaves it the same, and
also keeps what is `unexpired` unless it asks too `early`; a requirement that
was found can be deleted.
-/
structure LooksUp {ρ : Type} (store : RequirementStore ρ)
    (unexpired : Instant → ρ → JsString → Option StoredRequirement)
    (early : Instant → ρ → JsString → Prop) (Same : Instant → ρ → ρ → Prop) : Prop where
  sameFrom : SameFrom Same
  quiet : QuietRefusals store.get (fun _ => True) Same
  kept : ∀ {id checkedAt now s}, checkedAt ≤ now → ¬ early checkedAt s id →
    ∀ other time, checkedAt ≤ time →
      unexpired time (store.get id checkedAt now s).2 other = unexpired time s other
  lost : ∀ {id checkedAt now s}, early checkedAt s id →
    unexpired checkedAt (store.get id checkedAt now s).2 id ≠ unexpired checkedAt s id
  deletes : ∀ {id checkedAt now s requirement},
    (store.get id checkedAt now s).1 = .ok (some requirement) →
      ∀ time t, (store.delete id time t).1 = .ok ()

section InMemory

namespace InMemoryRequirementStore

/-- What a reader finds at `now`. -/
def shown (now : Instant) (entries : RequirementEntries) (dependencyId : JsString) :
    Option StoredRequirement :=
  (entries.find dependencyId).filter fun stored => !stored.expired now

theorem getEntry_shown {checkedAt time : Instant} (hle : checkedAt ≤ time)
    (entries : RequirementEntries) (id other : JsString) :
    shown time (getEntry id checkedAt entries).2 other = shown time entries other := by
  simp only [getEntry]
  cases hfound : entries.find id with
  | none => rfl
  | some stored =>
      simp only
      split_ifs with hexpired
      · by_cases hid : other = id
        · subst hid
          have hlater : stored.expired time := StoredRequirement.expired_later hle hexpired
          rw [shown, shown, Table.find_erase_same, hfound,
            Option.filter_some_neg (by simp [hlater])]
          rfl
        · simp only [shown, Table.find_erase_of_ne entries hid]
      · rfl

theorem get_eq_shown (entries : RequirementEntries) (id : JsString) (checkedAt now : Instant) :
    (get id checkedAt now entries).1 =
      .ok ((shown checkedAt entries id).map StoredRequirement.requirement) := by
  simp only [get, getEntry, shown]
  cases entries.find id with
  | none => rfl
  | some stored => cases hexpired : stored.expired checkedAt <;> simp [hexpired]

end InMemoryRequirementStore

theorem inMemory_looksUp (maximumEntries : Nat) :
    LooksUp (inMemoryRequirementStore maximumEntries) InMemoryRequirementStore.shown
      (fun _ _ _ => False)
      fun now s t => ∀ time, now ≤ time →
        InMemoryRequirementStore.shown time s = InMemoryRequirementStore.shown time t where
  sameFrom := sameFrom_view _
  quiet :=
    { answer := by
        intro id checkedAt now s t hle hsame
        simp only [inMemoryRequirementStore, InMemoryRequirementStore.get_eq_shown,
          hsame checkedAt (Int.le_refl _)]
      refused := fun _ _ time htime =>
        funext fun other => (InMemoryRequirementStore.getEntry_shown htime _ _ other).symm }
  kept := fun _ _ other time htime => InMemoryRequirementStore.getEntry_shown htime _ _ other
  lost := False.elim
  deletes := fun _ _ _ => rfl

end InMemory

section Redis

namespace RedisX424Store

variable (keyPrefix : JsString)

theorem get_unique {ν : Type} {db : RedisTable ν} {key : JsString} {now time : Instant}
    {value other : ν} (h : db.get now key = some value) (h' : db.get time key = some other) :
    value = other := by
  obtain ⟨cell, hcell, rfl⟩ := Option.map_eq_some_iff.mp h
  obtain ⟨cell', hcell', rfl⟩ := Option.map_eq_some_iff.mp h'
  have heq := (Cells.live_eq_some.mp hcell).1.symm.trans (Cells.live_eq_some.mp hcell').1
  rw [Option.some.inj heq]

def shown (times : Instant × Instant) (db : RedisTable StoredRequirement)
    (dependencyId : JsString) : Option StoredRequirement :=
  (db.get times.2 (requirementKey keyPrefix dependencyId)).filter fun stored =>
    !stored.expired times.1

theorem readRequirement_shown {checkedAt now : Instant} {db : RedisTable StoredRequirement}
    (id other : JsString) {times : Instant × Instant} (hchecked : checkedAt ≤ times.1) :
    shown keyPrefix times (readRequirement keyPrefix id checkedAt now db).2 other =
      shown keyPrefix times db other := by
  simp only [readRequirement]
  split_ifs with hempty
  · rfl
  · cases hfound : db.get now (requirementKey keyPrefix id) with
    | none => rfl
    | some stored =>
        simp only
        split_ifs with hexpired
        · by_cases hid : other = id
          · subst hid
            have hnone : (db.get times.2 (requirementKey keyPrefix other)).filter
                (fun stored => !stored.expired times.1) = none := by
              rw [Option.filter_eq_none_iff]
              intro found hlater
              rw [← get_unique hfound hlater]
              simp [StoredRequirement.expired_later hchecked hexpired]
            rw [shown, shown, hnone]
            simp [RedisTable.get]
          · have hne : requirementKey keyPrefix other ≠ requirementKey keyPrefix id :=
              fun heq => hid ((redisKey_injective keyPrefix _) heq)
            simp only [shown, RedisTable.get, Cells.live_erase_of_ne db times.2 hne]
        · rfl

theorem getRequirement_eq_shown (id : JsString) (checkedAt now : Instant)
    (db : RedisTable StoredRequirement) :
    (getRequirement keyPrefix id checkedAt now db).1 =
      if id.isEmpty then .error ⟨js "x424 store ID is required"⟩
      else .ok ((shown keyPrefix (checkedAt, now) db id).map StoredRequirement.requirement) := by
  simp only [getRequirement, readRequirement, shown]
  split_ifs with hempty
  · rfl
  · cases db.get now (requirementKey keyPrefix id) with
    | none => rfl
    | some stored => cases hexpired : stored.expired checkedAt <;> simp [hexpired]

theorem getRequirement_snd (id : JsString) (checkedAt now : Instant)
    (db : RedisTable StoredRequirement) :
    (getRequirement keyPrefix id checkedAt now db).2 =
      (readRequirement keyPrefix id checkedAt now db).2 := by
  simp only [getRequirement]
  cases readRequirement keyPrefix id checkedAt now db with
  | mk reply next => cases reply <;> rfl

end RedisX424Store

theorem redis_looksUp (keyPrefix : JsString) :
    LooksUp (RedisX424Store.requirements keyPrefix)
      (fun now => RedisX424Store.shown keyPrefix (now, now)) (fun _ _ _ => False)
      fun now s t => ∀ checkedAt time, now ≤ checkedAt → checkedAt ≤ time →
        RedisX424Store.shown keyPrefix (checkedAt, time) s =
          RedisX424Store.shown keyPrefix (checkedAt, time) t where
  sameFrom :=
    { refl := fun _ _ _ _ _ _ => rfl
      later := fun h hle checkedAt time hchecked => h checkedAt time (Int.le_trans hle hchecked)
      trans := fun h h' checkedAt time hchecked htime =>
        (h checkedAt time hchecked htime).trans (h' checkedAt time hchecked htime) }
  quiet :=
    { answer := by
        intro id checkedAt now s t hle hsame
        have hshown := congrFun (hsame checkedAt now (Int.le_refl _) hle) id
        simp only [RedisX424Store.requirements, RedisX424Store.getRequirement_eq_shown, hshown]
      refused := by
        intro id checkedAt now db hle _ checked time hchecked htime
        simp only [RedisX424Store.requirements, RedisX424Store.getRequirement_snd]
        exact funext fun other =>
          (RedisX424Store.readRequirement_shown keyPrefix id other hchecked).symm }
  kept := by
    intro id checkedAt now db hle _ other time htime
    simp only [RedisX424Store.requirements, RedisX424Store.getRequirement_snd]
    exact RedisX424Store.readRequirement_shown keyPrefix id other htime
  lost := False.elim
  deletes := by
    intro id checkedAt now db requirement hfound time t
    simp only [RedisX424Store.requirements, RedisX424Store.deleteRequirement]
    split_ifs with hempty
    · simp [RedisX424Store.requirements, RedisX424Store.getRequirement,
        RedisX424Store.readRequirement, hempty] at hfound
    · rfl

end Redis

section Postgres

namespace PostgresX424Store

/-- What a reader finds at `now`. -/
def shown (now : Instant) (rows : Cells JsString StoredRequirement) (dependencyId : JsString) :
    Option (Cell StoredRequirement) :=
  (rows dependencyId).filter fun row => now < dateStringMs row.expiresAt

def unexpired (now : Instant) (rows : Cells JsString StoredRequirement)
    (dependencyId : JsString) : Option StoredRequirement :=
  (rows.live now dependencyId).map Cell.value

def inLastSecond (checkedAt : Instant) (rows : Cells JsString StoredRequirement)
    (dependencyId : JsString) : Prop :=
  ∃ row, rows dependencyId = some row ∧ dateStringMs row.expiresAt ≤ checkedAt ∧
    checkedAt < row.expiresAt

variable {rows : Cells JsString StoredRequirement} {checkedAt time : Instant}

theorem getRequirement_eq_shown (id : JsString) (checkedAt now : Instant)
    (rows : Cells JsString StoredRequirement) :
    (getRequirement id checkedAt now rows).1 =
      .ok ((shown checkedAt rows id).map fun row => row.value.requirement) := by
  simp only [getRequirement, readRequirement, shown]
  cases rows id with
  | none => rfl
  | some row =>
      by_cases hpast : dateStringMs row.expiresAt ≤ checkedAt
      · simp [hpast, Option.filter_some_neg, Int.not_lt.mpr hpast]
      · simp [hpast, Option.filter, Int.not_le.mp hpast]

theorem getRequirement_snd (id : JsString) (checkedAt now : Instant)
    (rows : Cells JsString StoredRequirement) :
    (getRequirement id checkedAt now rows).2 =
      if (rows id).any fun row => dateStringMs row.expiresAt ≤ checkedAt then rows.erase id
      else rows := by
  simp only [getRequirement, readRequirement]
  cases rows id with
  | none => rfl
  | some row => by_cases hpast : dateStringMs row.expiresAt ≤ checkedAt <;> simp [hpast]

theorem getRequirement_erases (id : JsString) (checkedAt now : Instant)
    (rows : Cells JsString StoredRequirement) :
    (getRequirement id checkedAt now rows).2 = rows ∨
      ∃ row, rows id = some row ∧ dateStringMs row.expiresAt ≤ checkedAt ∧
        (getRequirement id checkedAt now rows).2 = rows.erase id := by
  rw [getRequirement_snd]
  cases hrow : rows id with
  | none => exact Or.inl rfl
  | some row =>
      by_cases hpast : dateStringMs row.expiresAt ≤ checkedAt
      · exact Or.inr ⟨row, rfl, hpast, by simp [hpast]⟩
      · exact Or.inl (by simp [hpast])

theorem erase_shown {id : JsString} {row : Cell StoredRequirement} (hrow : rows id = some row)
    (hpast : dateStringMs row.expiresAt ≤ time) :
    shown time (rows.erase id) = shown time rows := by
  funext other
  by_cases hid : other = id
  · subst hid
    simp [shown, Cells.erase, hrow, Option.filter_some_neg, Int.not_lt.mpr hpast]
  · simp [shown, Cells.erase, Function.update_of_ne hid]

end PostgresX424Store

theorem postgres_looksUp :
    LooksUp PostgresX424Store.requirements PostgresX424Store.unexpired
      PostgresX424Store.inLastSecond
      fun now s t => ∀ time, now ≤ time →
        PostgresX424Store.shown time s = PostgresX424Store.shown time t where
  sameFrom := sameFrom_view _
  quiet :=
    { answer := by
        intro id checkedAt now s t hle hsame
        simp only [PostgresX424Store.requirements, PostgresX424Store.getRequirement_eq_shown,
          hsame checkedAt (Int.le_refl _)]
      refused := by
        intro id checkedAt now rows hle _ time htime
        simp only [PostgresX424Store.requirements]
        obtain hkept | ⟨row, hrow, hpast, herased⟩ :=
          PostgresX424Store.getRequirement_erases id checkedAt now rows
        · rw [hkept]
        · rw [herased, PostgresX424Store.erase_shown hrow (Int.le_trans hpast htime)] }
  kept := by
    intro id checkedAt now rows hle hearly other time htime
    simp only [PostgresX424Store.requirements]
    obtain hkept | ⟨row, hrow, hpast, herased⟩ :=
      PostgresX424Store.getRequirement_erases id checkedAt now rows
    · rw [hkept]
    · have hexpired : row.expiresAt ≤ checkedAt :=
        Int.not_lt.mp fun hfuture => hearly ⟨row, hrow, hpast, hfuture⟩
      rw [herased]
      by_cases hid : other = id
      · subst hid
        have hdead : rows.live time other = none := by
          rw [Cells.live_eq_none]
          intro cell hcell
          rw [hrow, Option.some.injEq] at hcell
          subst hcell
          exact Int.le_trans hexpired htime
        rw [PostgresX424Store.unexpired, PostgresX424Store.unexpired, hdead,
          Cells.live_erase_same]
      · rw [PostgresX424Store.unexpired, PostgresX424Store.unexpired,
          Cells.live_erase_of_ne rows time hid]
  lost := by
    rintro id checkedAt now rows ⟨row, hrow, hpast, hfuture⟩
    simp [PostgresX424Store.requirements, PostgresX424Store.getRequirement_snd,
      PostgresX424Store.unexpired, hrow, hpast, Cells.live, Cells.erase, hfuture]
  deletes := fun _ _ _ => rfl

end Postgres

/-! ## Presentations -/

section Presentations

variable {ρ ν ν' : Type} {sha256 : JsString → JsString}
  {options : ProtectOptions ρ (Cells JsString ν) (Cells JsString ν')}
  {request : ProtectedRequest} {times : PresentationTimes}
  {unexpired : Instant → ρ → JsString → Option StoredRequirement}
  {early : Instant → ρ → JsString → Prop} {SameRequirements : Instant → ρ → ρ → Prop}
  {SameReplays : Instant → Cells JsString ν → Cells JsString ν → Prop}
  {SameAcceptances : Instant → Cells JsString ν' → Cells JsString ν' → Prop}
  {s t : ResourceStores ρ (Cells JsString ν) (Cells JsString ν')}

def SameUnexpired (unexpired : Instant → ρ → JsString → Option StoredRequirement) (now : Instant)
    (s t : ResourceStores ρ (Cells JsString ν) (Cells JsString ν')) : Prop :=
  (∀ id time, now ≤ time → unexpired time t.requirements id = unexpired time s.requirements id) ∧
    SameCells now s.replays t.replays ∧ SameCells now s.acceptances t.acceptances

/-- The requirement store is asked for an entry that it takes to have expired already. -/
def LooksUpEarly (early : Instant → ρ → JsString → Prop)
    (options : ProtectOptions ρ (Cells JsString ν) (Cells JsString ν'))
    (request : ProtectedRequest) (startedAt : Instant) (requirements : ρ) : Prop :=
  ∃ preview, options.previewToken request = .ok preview ∧
    early startedAt requirements preview.dependencyId

theorem spendResult_refused
    (h : QuietResults options.replayStore options.resultAcceptanceStore SameReplays
      SameAcceptances) {result : HumanResult} {checkedAt now : Instant}
    {replays : Cells JsString ν} {acceptances : Cells JsString ν'} {error : JsError}
    (hle : checkedAt ≤ now)
    (hrefused : (options.spendResult request result checkedAt now replays acceptances).1 =
      .error error) :
    SameReplays checkedAt replays
        (options.spendResult request result checkedAt now replays acceptances).2.1 ∧
      SameAcceptances checkedAt acceptances
        (options.spendResult request result checkedAt now replays acceptances).2.2 := by
  rcases options.spendResult_cases request result with
    ⟨store, operationId, hstore, _, _, hspend⟩ | ⟨store, hstore, _, hspend⟩ | ⟨_, _, hspend⟩
  · rw [hspend] at hrefused ⊢
    rw [ProtectOptions.acceptanceOutcome_snd]
    refine ⟨h.replaysFrom.refl _ _, (h.acceptances store hstore).refused hle fun haccepted => ?_⟩
    rw [ProtectOptions.acceptanceOutcome_eq_ok.mpr haccepted] at hrefused
    cases hrefused
  · rw [hspend] at hrefused ⊢
    rw [ProtectOptions.consumptionOutcome_snd]
    refine ⟨(h.replays store hstore).refused (c := (result.resultId, result.expiresAt)) hle
      fun hconsumed => ?_, h.acceptancesFrom.refl _ _⟩
    rw [ProtectOptions.consumptionOutcome_eq_ok.mpr hconsumed] at hrefused
    cases hrefused
  · rw [hspend] at hrefused
    cases hrefused

theorem spendResult_answer
    (h : QuietResults options.replayStore options.resultAcceptanceStore SameReplays
      SameAcceptances) {result : HumanResult} {checkedAt now : Instant}
    {replays replays' : Cells JsString ν} {acceptances acceptances' : Cells JsString ν'}
    (hle : checkedAt ≤ now) (hreplays : SameReplays checkedAt replays replays')
    (hacceptances : SameAcceptances checkedAt acceptances acceptances') :
    (options.spendResult request result checkedAt now replays acceptances).1 =
      (options.spendResult request result checkedAt now replays' acceptances').1 := by
  rcases options.spendResult_cases request result with
    ⟨store, operationId, hstore, _, _, hspend⟩ | ⟨store, hstore, _, hspend⟩ | ⟨_, _, hspend⟩
  · rw [hspend, hspend]
    exact ProtectOptions.acceptanceOutcome_congr
      ((h.acceptances store hstore).answer hle hacceptances)
  · rw [hspend, hspend]
    exact ProtectOptions.consumptionOutcome_congr
      ((h.replays store hstore).answer (c := (result.resultId, result.expiresAt)) hle hreplays)
  · rw [hspend, hspend]

/-- What a rejected presentation has done: at most one `get` and tidying. -/
theorem acceptHumanProof_rejected
    (hrequirements : LooksUp options.requirementStore unexpired early SameRequirements)
    (hresults : QuietResults options.replayStore options.resultAcceptanceStore SameReplays
      SameAcceptances) (htimes : times.Ordered)
    (hrejected : (options.acceptHumanProof sha256 request times s).1.rejected) :
    ∃ replays acceptances, SameReplays times.startedAt s.replays replays ∧
      SameAcceptances times.startedAt s.acceptances acceptances ∧
      (((∃ error, options.previewToken request = .error error) ∧
        (options.acceptHumanProof sha256 request times s).2 =
          ⟨s.requirements, replays, acceptances⟩) ∨
      ∃ preview, options.previewToken request = .ok preview ∧
        (options.acceptHumanProof sha256 request times s).2 =
          ⟨(options.requirementStore.get preview.dependencyId times.startedAt times.lookedUpAt
            s.requirements).2, replays, acceptances⟩) := by
  have hreplays := hresults.replaysFrom.refl times.startedAt s.replays
  have hacceptances := hresults.acceptancesFrom.refl times.startedAt s.acceptances
  rcases options.acceptHumanProof_cases sha256 request times s with
    ⟨error, hpreview, haccept⟩ | ⟨preview, reply, requirements, hpreview, hget, hafter⟩
  · exact ⟨_, _, hreplays, hacceptances, Or.inl ⟨⟨error, hpreview⟩, by rw [haccept]⟩⟩
  · rcases hafter with ⟨_, error, haccept⟩ | ⟨requirement, hreply, ⟨error, _, haccept⟩ |
      ⟨result, hcheck, haccept⟩⟩
    · exact ⟨_, _, hreplays, hacceptances, Or.inr ⟨preview, hpreview, by rw [haccept, hget]⟩⟩
    · exact ⟨_, _, hreplays, hacceptances, Or.inr ⟨preview, hpreview, by rw [haccept, hget]⟩⟩
    · obtain ⟨_, hid⟩ := ProtectOptions.dependencyId_of_checked hpreview hcheck
      have hle : times.startedAt ≤ times.spentAt := Int.le_trans htimes.1 htimes.2.1
      rw [haccept] at hrejected ⊢
      simp only [ProtectOptions.settle] at hrejected ⊢
      cases hspent : (options.spendResult request result times.startedAt times.spentAt s.replays
          s.acceptances).1 with
      | error error =>
          obtain ⟨hreplays', hacceptances'⟩ := spendResult_refused hresults hle hspent
          exact ⟨_, _, hreplays', hacceptances', Or.inr ⟨preview, hpreview, by rw [hget]⟩⟩
      | ok _ =>
          have hdeleted := hrequirements.deletes (by rw [hget]; exact hreply) times.endedAt
            requirements
          simp only [hspent] at hrejected
          split_ifs at hrejected with hmutation
          · obtain ⟨error, herror⟩ := hrejected
            cases herror
          · rw [hid] at hrejected
            simp only [hdeleted] at hrejected
            obtain ⟨error, herror⟩ := hrejected
            cases herror

theorem acceptHumanProof_quiet
    (hrequirements : LooksUp options.requirementStore unexpired early SameRequirements)
    (hresults : QuietResults options.replayStore options.resultAcceptanceStore SameReplays
      SameAcceptances) (htimes : times.Ordered)
    (hrejected : (options.acceptHumanProof sha256 request times s).1.rejected) :
    SameRequirements times.startedAt s.requirements
        (options.acceptHumanProof sha256 request times s).2.requirements ∧
      SameReplays times.startedAt s.replays
        (options.acceptHumanProof sha256 request times s).2.replays ∧
      SameAcceptances times.startedAt s.acceptances
        (options.acceptHumanProof sha256 request times s).2.acceptances := by
  obtain ⟨replays, acceptances, hreplays, hacceptances, hafter⟩ :=
    acceptHumanProof_rejected hrequirements hresults htimes hrejected
  rcases hafter with ⟨_, hafter⟩ | ⟨preview, _, hafter⟩
  · rw [hafter]
    exact ⟨hrequirements.sameFrom.refl _ _, hreplays, hacceptances⟩
  · rw [hafter]
    exact ⟨hrequirements.quiet.refused htimes.1 trivial, hreplays, hacceptances⟩

theorem acceptHumanProof_answer
    (hrequirements : LooksUp options.requirementStore unexpired early SameRequirements)
    (hresults : QuietResults options.replayStore options.resultAcceptanceStore SameReplays
      SameAcceptances) (htimes : times.Ordered)
    (hsame : SameRequirements times.startedAt s.requirements t.requirements)
    (hreplays : SameReplays times.startedAt s.replays t.replays)
    (hacceptances : SameAcceptances times.startedAt s.acceptances t.acceptances) :
    (options.acceptHumanProof sha256 request times s).1 =
      (options.acceptHumanProof sha256 request times t).1 := by
  have hle : times.startedAt ≤ times.spentAt := Int.le_trans htimes.1 htimes.2.1
  simp only [ProtectOptions.acceptHumanProof]
  cases hpreview : options.previewToken request with
  | error error => rfl
  | ok preview =>
      have hget := hrequirements.quiet.answer (c := preview.dependencyId) htimes.1 hsame
      simp only [hget]
      cases hreply : (options.requirementStore.get preview.dependencyId times.startedAt
          times.lookedUpAt t.requirements).1 with
      | error error => rfl
      | ok found =>
          cases found with
          | none => rfl
          | some requirement =>
              simp only
              cases hcheck : options.checkPresentation request sha256 requirement
                  times.startedAt with
              | error error => rfl
              | ok result =>
                  have hspent := @spendResult_answer ρ ν ν' options request _ _ hresults
                    result _ _ _ _ _ _ hle hreplays hacceptances
                  obtain ⟨_, hid⟩ := ProtectOptions.dependencyId_of_checked hpreview hcheck
                  have hdeletes := hrequirements.deletes hreply times.endedAt
                  simp only [ProtectOptions.settle, hspent, hid]
                  cases (options.spendResult request result times.startedAt times.spentAt
                      t.replays t.acceptances).1 with
                  | error error => rfl
                  | ok _ =>
                      simp only
                      split_ifs
                      · rfl
                      · simp only [hdeletes]

theorem rejected_run_same
    (hrequirements : LooksUp options.requirementStore unexpired early SameRequirements)
    (hresults : QuietResults options.replayStore options.resultAcceptanceStore SameReplays
      SameAcceptances)
    {u v : Instant × ResourceStores ρ (Cells JsString ν) (Cells JsString ν')}
    {es : List Presented}
    (hall : (presentationMachine sha256 options).Along
      (fun u event => (options.acceptHumanProof sha256 event.1 event.2 u.2).1.rejected) u es)
    (hrun : (presentationMachine sha256 options).run u es = some v) :
    SameRequirements v.1 u.2.requirements v.2.requirements ∧
      SameReplays v.1 u.2.replays v.2.replays ∧
      SameAcceptances v.1 u.2.acceptances v.2.acceptances := by
  refine Machine.invariant_along _ (I := fun w => SameRequirements w.1 u.2.requirements
    w.2.requirements ∧ SameReplays w.1 u.2.replays w.2.replays ∧
    SameAcceptances w.1 u.2.acceptances w.2.acceptances) (fun w event w' hw hrejected hstep => ?_)
    ⟨hrequirements.sameFrom.refl _ _, hresults.replaysFrom.refl _ _,
      hresults.acceptancesFrom.refl _ _⟩ hall hrun
  obtain ⟨hstart, hordered, rfl⟩ := presentationMachine_step hstep
  obtain ⟨hsame, hreplays, hacceptances⟩ := hw
  obtain ⟨hquiet, hquietReplays, hquietAcceptances⟩ :=
    acceptHumanProof_quiet hrequirements hresults hordered hrejected
  have hend := hordered.started_le_ended
  have hfirst := hrequirements.sameFrom.later hsame hstart
  have hsecond := hresults.replaysFrom.later hreplays hstart
  have hthird := hresults.acceptancesFrom.later hacceptances hstart
  exact ⟨hrequirements.sameFrom.later (hrequirements.sameFrom.trans hfirst hquiet) hend,
    hresults.replaysFrom.later (hresults.replaysFrom.trans hsecond hquietReplays) hend,
    hresults.acceptancesFrom.later (hresults.acceptancesFrom.trans hthird hquietAcceptances) hend⟩

end Presentations

/-! ## Rejections are harmless -/

/-- The requirement stores of the three backends, with what they hold unexpired
and when they are asked early. -/
inductive RequirementBackend : (ρ : Type) → RequirementStore ρ →
    (Instant → ρ → JsString → Option StoredRequirement) → (Instant → ρ → JsString → Prop) →
    Prop where
  | inMemory (maximumEntries : Nat) :
      RequirementBackend _ (inMemoryRequirementStore maximumEntries)
        InMemoryRequirementStore.shown fun _ _ _ => False
  | redis (keyPrefix : JsString) :
      RequirementBackend _ (RedisX424Store.requirements keyPrefix)
        (fun now => RedisX424Store.shown keyPrefix (now, now)) fun _ _ _ => False
  | postgres :
      RequirementBackend _ PostgresX424Store.requirements PostgresX424Store.unexpired
        PostgresX424Store.inLastSecond

theorem RequirementBackend.looksUp {ρ : Type} {store : RequirementStore ρ}
    {unexpired : Instant → ρ → JsString → Option StoredRequirement}
    {early : Instant → ρ → JsString → Prop} (h : RequirementBackend ρ store unexpired early) :
    ∃ Same, LooksUp store unexpired early Same := by
  cases h with
  | inMemory maximumEntries => exact ⟨_, inMemory_looksUp maximumEntries⟩
  | redis keyPrefix => exact ⟨_, redis_looksUp keyPrefix⟩
  | postgres => exact ⟨_, postgres_looksUp⟩

/-- A rejected presentation changes nothing unless it looks up early, and no
sequence of rejected presentations changes the answer to a later one. -/
structure RejectionsHarmless {ρ ν ν' : Type} (sha256 : JsString → JsString)
    (options : ProtectOptions ρ (Cells JsString ν) (Cells JsString ν'))
    (unexpired : Instant → ρ → JsString → Option StoredRequirement)
    (early : Instant → ρ → JsString → Prop) : Prop where
  keeps : ∀ request (times : PresentationTimes)
    (s : ResourceStores ρ (Cells JsString ν) (Cells JsString ν')), times.Ordered →
    (options.acceptHumanProof sha256 request times s).1.rejected →
    (SameUnexpired unexpired times.startedAt s
        (options.acceptHumanProof sha256 request times s).2 ↔
      ¬ LooksUpEarly early options request times.startedAt s.requirements)
  rightful : ∀ {s t} {es : List Presented},
    (presentationMachine sha256 options).Along
      (fun s event => (options.acceptHumanProof sha256 event.1 event.2 s.2).1.rejected) s es →
    (presentationMachine sha256 options).run s es = some t →
    ∀ request (times : PresentationTimes), t.1 ≤ times.startedAt → times.Ordered →
      (options.acceptHumanProof sha256 request times t.2).1 =
        (options.acceptHumanProof sha256 request times s.2).1

namespace LastSecond

def options : ProtectOptions (Cells JsString StoredRequirement) (Cells JsString Unit)
    (Cells JsString AcceptedOperation) where
  deploymentProfile := .prodHa
  purpose := js "p"
  audience := js "https://a.example"
  catalog _ := none
  verifyHumanResultToken _ := .ok
    { resultId := js "r", dependencyId := js "d", purpose := js "p",
      audience := js "https://a.example",
      requestDigest := js "sha256:47DEQpj8HBSa-_TImW-5JCeuQeRkm5NMpJWZG3hSuFU",
      binding := ⟨.session, js "s"⟩, providerId := js "world", methodId := js "proof-of-human",
      descriptorVersion := js "1", assuranceLevel := none, uniquenessScope := ⟨.action, js "a"⟩,
      verificationMode := .backend, claim := js "one human", nonClaims := [js "identity"],
      verifiedAt := some 1, issuedAt := some 1, expiresAt := some 1400 }
  requirementStore := PostgresX424Store.requirements
  replayStore := some PostgresX424Store.results
  resultAcceptanceStore := some PostgresX424Store.resultAcceptances
  requirementsInMemory := false
  replaysInMemory := false
  acceptancesInMemory := false
  publicOrigin := ⟨js "https://a.example", some (js "https:")⟩
  requireIdempotencyKey := none

def request : ProtectedRequest where
  method := js "POST"
  uri := js "https://a.example/x"
  binding := ⟨.session, js "s"⟩
  bodyDigest := none
  idempotencyKey := some (js "k")
  humanProof := js "t"

def stores : ResourceStores (Cells JsString StoredRequirement) (Cells JsString Unit)
    (Cells JsString AcceptedOperation) :=
  ⟨Cells.empty.put (js "d") ⟨⟨requirement, none⟩, 1500⟩, Cells.empty, Cells.empty⟩

end LastSecond

open LastSecond in
/-- The presentation at 1200 is rejected and takes the requirement, which expires at 1500. -/
theorem rejection_drops_unexpired :
    ¬ ∀ (sha256 : JsString → JsString) (request : ProtectedRequest)
        (times : PresentationTimes), times.Ordered →
      (options.acceptHumanProof sha256 request times stores).1.rejected →
      SameUnexpired PostgresX424Store.unexpired times.startedAt stores
        (options.acceptHumanProof sha256 request times stores).2 := by
  intro h
  have hsame := h id request ⟨1200, 1200, 1200, 1200⟩ (by decide) ⟨_, rfl⟩
  exact absurd (hsame.1 (js "d") 1200 (Int.le_refl _)) (by decide)

theorem rejections_harmless {ρ ν ν' : Type} (sha256 : JsString → JsString)
    {options : ProtectOptions ρ (Cells JsString ν) (Cells JsString ν')}
    {unexpired : Instant → ρ → JsString → Option StoredRequirement}
    {early : Instant → ρ → JsString → Prop}
    (hrequirements : RequirementBackend ρ options.requirementStore unexpired early)
    (hreplays : ∀ store ∈ options.replayStore, ReplayBackend ν store)
    (hacceptances : ∀ store ∈ options.resultAcceptanceStore, AcceptanceBackend ν' store) :
    RejectionsHarmless sha256 options unexpired early := by
  obtain ⟨SameRequirements, hlooksUp⟩ := hrequirements.looksUp
  obtain ⟨SameReplays, hreplaysFrom, hreplaysAgree, hreplaysQuiet⟩ :=
    ReplayBackend.quiet hreplays
  obtain ⟨SameAcceptances, hacceptancesFrom, hacceptancesAgree, hacceptancesQuiet⟩ :=
    AcceptanceBackend.quiet hacceptances
  have hresults : QuietResults options.replayStore options.resultAcceptanceStore SameReplays
      SameAcceptances :=
    ⟨hreplaysFrom, hacceptancesFrom, hreplaysAgree, hacceptancesAgree, hreplaysQuiet,
      hacceptancesQuiet⟩
  refine ⟨fun request times s htimes hrejected => ?_, fun hall hrun request times hclock htimes =>
    ?_⟩
  · obtain ⟨replays, acceptances, hsameReplays, hsameAcceptances, hafter⟩ :=
      acceptHumanProof_rejected hlooksUp hresults htimes hrejected
    rcases hafter with ⟨⟨error, hpreview⟩, hafter⟩ | ⟨preview, hpreview, hafter⟩
    · rw [hafter]
      refine iff_of_true ⟨fun _ _ _ => rfl, hreplaysAgree hsameReplays,
        hacceptancesAgree hsameAcceptances⟩ ?_
      rintro ⟨preview, hok, _⟩
      rw [hpreview] at hok
      cases hok
    · rw [hafter]
      constructor
      · rintro hsame ⟨preview', hok, hearly⟩
        rw [hpreview, Except.ok.injEq] at hok
        subst hok
        exact hlooksUp.lost hearly (hsame.1 _ _ (Int.le_refl _))
      · intro hearly
        exact ⟨hlooksUp.kept htimes.1 fun h => hearly ⟨preview, hpreview, h⟩,
          hreplaysAgree hsameReplays, hacceptancesAgree hsameAcceptances⟩
  · obtain ⟨hsame, hsameReplays, hsameAcceptances⟩ :=
      rejected_run_same hlooksUp hresults hall hrun
    exact (acceptHumanProof_answer hlooksUp hresults htimes
      (hlooksUp.sameFrom.later hsame hclock) (hreplaysFrom.later hsameReplays hclock)
      (hacceptancesFrom.later hsameAcceptances hclock)).symm

open LastSecond in
theorem rejections_harmless_hosted :
    RejectionsHarmless (fun _ => js "sha256:47DEQpj8HBSa-_TImW-5JCeuQeRkm5NMpJWZG3hSuFU") options
      PostgresX424Store.unexpired PostgresX424Store.inLastSecond := by
  refine rejections_harmless _ .postgres ?_ ?_
  · rintro _ ⟨⟩
    exact .postgres
  · rintro _ ⟨⟩
    exact .postgres

end X424
