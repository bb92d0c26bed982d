import X424.RequirementStore

/-!
# What the requirement stores keep

Each of the three stores keeps a requirement under its dependency id until it
is deleted or has lapsed.  In PostgreSQL it lapses at the start of the second
in which it expires, because the expiry is read back from a text.
-/

namespace X424

open Foundation

def HumanRequirement.lapsed (lasts : Instant → Instant) (requirement : HumanRequirement)
    (now : Instant) : Bool :=
  parsedLe (requirement.expiresAt.map lasts) now

/-- Nothing happened to the entry, unless it had lapsed. -/
def EntryKept (lasts : Instant → Instant) (now : Instant)
    (before after : Option HumanRequirement) : Prop :=
  after = before ∨
    (after = none ∧ ∃ requirement, before = some requirement ∧ requirement.lapsed lasts now)

theorem HumanRequirement.lapsed_later {lasts : Instant → Instant}
    {requirement : HumanRequirement} {now later : Instant} (hle : now ≤ later)
    (h : requirement.lapsed lasts now) : requirement.lapsed lasts later := by
  unfold lapsed at h ⊢
  cases hexpires : requirement.expiresAt.map lasts with
  | none =>
      rw [hexpires] at h
      cases h
  | some value =>
      simp only [hexpires, parsedLe, decide_eq_true_eq] at h ⊢
      exact Int.le_trans h hle

/-- The store keeps what `entry` says it holds, until it lapses. -/
structure KeepsRequirements {ρ : Type} (store : RequirementStore ρ) (valid : ρ → Prop)
    (entry : ρ → JsString → Option HumanRequirement) (lasts : Instant → Instant) : Prop where
  valid_empty : valid store.empty
  entry_empty : ∀ dependencyId, entry store.empty dependencyId = none
  named : ∀ {s dependencyId requirement}, valid s →
    entry s dependencyId = some requirement → requirement.dependencyId = dependencyId
  putFor : ∀ {s} (requirement tenantId now), valid s →
    let next := (store.putFor requirement tenantId now s).2
    valid next ∧ ∀ id,
      (id = requirement.dependencyId ∧ entry next id = some requirement) ∨
        EntryKept lasts now (entry s id) (entry next id)
  get : ∀ {s} (dependencyId) {checkedAt now}, valid s → checkedAt ≤ now →
    let reply := store.get dependencyId checkedAt now s
    valid reply.2 ∧ (∀ id, EntryKept lasts now (entry s id) (entry reply.2 id)) ∧
    (∀ requirement, reply.1 = .ok (some requirement) →
      entry s dependencyId = some requirement ∧ requirement.lapsed lasts checkedAt = false) ∧
    ∀ requirement, entry s dependencyId = some requirement →
      requirement.lapsed lasts now = false → reply.1 = .ok (some requirement)
  delete : ∀ {s} (dependencyId now), valid s →
    let next := (store.delete dependencyId now s).2
    valid next ∧ entry next dependencyId = none ∧
      ∀ id, id ≠ dependencyId → entry next id = entry s id
  deleteForTenant : ∀ {s} (dependencyId tenantId now), valid s →
    let reply := store.deleteForTenant dependencyId tenantId now s
    valid reply.2 ∧ (reply.1 = .ok true → entry reply.2 dependencyId = none) ∧
      ∀ id, (id = dependencyId ∧ reply.1 = .ok true) ∨
        EntryKept lasts now (entry s id) (entry reply.2 id)

/-! ## In memory -/

section InMemory

def RequirementEntries.entry (entries : RequirementEntries) (dependencyId : JsString) :
    Option HumanRequirement :=
  (entries.find dependencyId).map StoredRequirement.requirement

variable {entries : RequirementEntries} {dependencyId : JsString} {now later : Instant}

theorem StoredRequirement.lapsed_of_expired {stored : StoredRequirement} (hle : now ≤ later)
    (h : stored.expired now) : stored.requirement.lapsed (fun time => time) later := by
  refine HumanRequirement.lapsed_later hle ?_
  rw [HumanRequirement.lapsed, Option.map_id']
  exact h

private theorem entryKept_filter (hle : now ≤ later) {keep : StoredRequirement → Bool}
    (hkeep : ∀ stored, entries.find dependencyId = some stored → keep stored = false →
      stored.expired now) :
    EntryKept (fun time => time) later (entries.entry dependencyId)
      (RequirementEntries.entry (entries.filter keep) dependencyId) := by
  unfold RequirementEntries.entry
  rw [Table.find_filter]
  cases hfound : entries.find dependencyId with
  | none => exact Or.inl rfl
  | some stored =>
      cases hstored : keep stored with
      | true => exact Or.inl (by simp [hstored])
      | false =>
          exact Or.inr ⟨by simp [hstored], _, rfl,
            StoredRequirement.lapsed_of_expired hle (hkeep stored hfound hstored)⟩

private theorem entryKept_prune (id : JsString) :
    EntryKept (fun time => time) now (entries.entry id)
      (RequirementEntries.entry (InMemoryRequirementStore.prune now entries) id) :=
  entryKept_filter (Int.le_refl now) fun stored _ hkeep => by simpa using hkeep

private theorem getEntry_kept (hle : now ≤ later) (id : JsString) :
    EntryKept (fun time => time) later (entries.entry id) (RequirementEntries.entry
      (InMemoryRequirementStore.getEntry dependencyId now entries).2 id) := by
  unfold InMemoryRequirementStore.getEntry
  cases hfound : entries.find dependencyId with
  | none => exact Or.inl rfl
  | some stored =>
      simp only
      split_ifs with hexpired
      · refine entryKept_filter hle fun other hother hkeep => ?_
        have hid : id = dependencyId := by
          rw [← (Table.find_eq_some.mp hother).2]
          simpa using hkeep
        rw [hid, hfound, Option.some.injEq] at hother
        rwa [← hother]
      · exact Or.inl rfl

private theorem getEntry_eq_some {stored : StoredRequirement} :
    (InMemoryRequirementStore.getEntry dependencyId now entries).1 = some stored ↔
      entries.find dependencyId = some stored ∧ stored.expired now = false := by
  unfold InMemoryRequirementStore.getEntry
  cases entries.find dependencyId with
  | none => simp
  | some other =>
      simp only
      split_ifs with hexpired
      · simp only [Option.some.injEq, false_iff, not_and]
        rintro rfl
        simp [hexpired]
      · simp only [Option.some.injEq]
        constructor
        · rintro rfl
          exact ⟨rfl, Bool.not_eq_true _ ▸ hexpired⟩
        · exact fun h => h.1

private theorem lapsed_eq_expired (stored : StoredRequirement) (time : Instant) :
    stored.requirement.lapsed (fun time => time) time = stored.expired time := by
  rw [HumanRequirement.lapsed, Option.map_id']
  rfl

theorem inMemory_keepsRequirements (maximumEntries : Nat) :
    KeepsRequirements (inMemoryRequirementStore maximumEntries) (fun _ => True)
      RequirementEntries.entry (fun time => time) where
  valid_empty := trivial
  entry_empty _ := rfl
  named := by
    intro entries dependencyId requirement _ hentry
    obtain ⟨stored, hfound, rfl⟩ := Option.map_eq_some_iff.mp hentry
    exact (Table.find_eq_some.mp hfound).2
  putFor := by
    intro entries requirement tenantId now _
    refine ⟨trivial, fun id => ?_⟩
    simp only [inMemoryRequirementStore, InMemoryRequirementStore.putFor]
    split_ifs
    · exact Or.inr (Or.inl rfl)
    · exact Or.inr (entryKept_prune id)
    · exact Or.inr (entryKept_prune id)
    · exact Or.inr (entryKept_prune id)
    · by_cases hid : id = requirement.dependencyId
      · subst hid
        refine Or.inl ⟨rfl, ?_⟩
        exact congrArg (Option.map StoredRequirement.requirement)
          (Table.find_put_same _ (⟨requirement, tenantId⟩ : StoredRequirement))
      · have hne : id ≠ StoredRequirement.dependencyId ⟨requirement, tenantId⟩ := hid
        refine Or.inr ?_
        unfold RequirementEntries.entry
        rw [Table.find_put_of_ne _ hne]
        exact entryKept_prune id
  get := by
    intro entries dependencyId checkedAt now _ hle
    refine ⟨trivial, fun id => getEntry_kept hle id, fun requirement hreply => ?_,
      fun requirement hentry hlapsed => ?_⟩
    · simp only [inMemoryRequirementStore, InMemoryRequirementStore.get, Except.ok.injEq] at hreply
      obtain ⟨stored, hstored, rfl⟩ := Option.map_eq_some_iff.mp hreply
      obtain ⟨hfound, hexpired⟩ := getEntry_eq_some.mp hstored
      refine ⟨by simp [RequirementEntries.entry, hfound], ?_⟩
      rwa [lapsed_eq_expired]
    · obtain ⟨stored, hfound, rfl⟩ := Option.map_eq_some_iff.mp hentry
      have hexpired : stored.expired checkedAt = false := by
        by_contra hexpired
        rw [Bool.not_eq_false] at hexpired
        rw [StoredRequirement.lapsed_of_expired hle hexpired] at hlapsed
        cases hlapsed
      simp only [inMemoryRequirementStore, InMemoryRequirementStore.get,
        getEntry_eq_some.mpr ⟨hfound, hexpired⟩, Option.map_some]
  delete := by
    intro entries dependencyId now _
    refine ⟨trivial, ?_, fun id hid => ?_⟩
    · exact congrArg (Option.map StoredRequirement.requirement) (Table.find_erase_same _ _)
    · exact congrArg (Option.map StoredRequirement.requirement) (Table.find_erase_of_ne _ hid)
  deleteForTenant := by
    intro entries dependencyId tenantId now _
    refine ⟨trivial, ?_⟩
    simp only [inMemoryRequirementStore, InMemoryRequirementStore.deleteForTenant]
    split_ifs
    · exact ⟨by simp, fun id => Or.inr (Or.inl rfl)⟩
    · refine ⟨fun _ => congrArg (Option.map StoredRequirement.requirement)
        (Table.find_erase_same _ _), fun id => ?_⟩
      by_cases hid : id = dependencyId
      · exact Or.inl ⟨hid, rfl⟩
      · refine Or.inr ?_
        unfold RequirementEntries.entry
        rw [Table.find_erase_of_ne _ hid]
        exact getEntry_kept (Int.le_refl now) id
    · exact ⟨by simp, fun id => Or.inr (getEntry_kept (Int.le_refl now) id)⟩

end InMemory

/-! ## Cells -/

section Cells

variable {place : JsString → JsString} {lasts : Instant → Instant}
  {cells : Cells JsString StoredRequirement} {dependencyId : JsString} {now later : Instant}

def PlacedRequirements (place : JsString → JsString) (cells : Cells JsString StoredRequirement) :
    Prop :=
  ∀ dependencyId cell, cells (place dependencyId) = some cell →
    cell.value.requirement.dependencyId = dependencyId ∧
      cell.value.requirement.expiresAt = some cell.expiresAt

def placedEntry (place : JsString → JsString) (cells : Cells JsString StoredRequirement)
    (dependencyId : JsString) : Option HumanRequirement :=
  (cells (place dependencyId)).map fun cell => cell.value.requirement

namespace PlacedRequirements

theorem erase (hplace : Function.Injective place) (h : PlacedRequirements place cells) :
    PlacedRequirements place (cells.erase (place dependencyId)) := by
  intro id cell hcell
  by_cases hid : id = dependencyId
  · subst hid
    simp [Cells.erase] at hcell
  · have hne : place id ≠ place dependencyId := fun heq => hid (hplace heq)
    rw [Cells.erase, Function.update_of_ne hne] at hcell
    exact h id cell hcell

theorem put (hplace : Function.Injective place) (h : PlacedRequirements place cells)
    {requirement : HumanRequirement} {tenantId : Option JsString} {e : Instant}
    (hexpires : requirement.expiresAt = some e) :
    PlacedRequirements place
      (cells.put (place requirement.dependencyId) ⟨⟨requirement, tenantId⟩, e⟩) := by
  intro id cell hcell
  by_cases hid : id = requirement.dependencyId
  · subst hid
    simp only [Cells.put, Function.update_self, Option.some.injEq] at hcell
    subst hcell
    exact ⟨rfl, hexpires⟩
  · have hne : place id ≠ place requirement.dependencyId := fun heq => hid (hplace heq)
    rw [Cells.put, Function.update_of_ne hne] at hcell
    exact h id cell hcell

theorem kept_erase (hplace : Function.Injective place) (h : PlacedRequirements place cells)
    {cell : Cell StoredRequirement} (hcell : cells (place dependencyId) = some cell)
    (hle : now ≤ later) (hlapsed : lasts cell.expiresAt ≤ now) (id : JsString) :
    EntryKept lasts later (placedEntry place cells id)
      (placedEntry place (cells.erase (place dependencyId)) id) := by
  by_cases hid : id = dependencyId
  · subst hid
    refine Or.inr ⟨by simp [placedEntry, Cells.erase], cell.value.requirement,
      by simp [placedEntry, hcell], HumanRequirement.lapsed_later hle ?_⟩
    simp only [HumanRequirement.lapsed, (h id cell hcell).2, Option.map_some, parsedLe,
      decide_eq_true_eq]
    exact hlapsed
  · have hne : place id ≠ place dependencyId := fun heq => hid (hplace heq)
    exact Or.inl (by simp [placedEntry, Cells.erase, Function.update_of_ne hne])

end PlacedRequirements

theorem placedEntry_erase_same :
    placedEntry place (cells.erase (place dependencyId)) dependencyId = none := by
  simp [placedEntry, Cells.erase]

theorem placedEntry_erase_of_ne (hplace : Function.Injective place) {id : JsString}
    (hid : id ≠ dependencyId) :
    placedEntry place (cells.erase (place dependencyId)) id = placedEntry place cells id := by
  have hne : place id ≠ place dependencyId := fun heq => hid (hplace heq)
  simp [placedEntry, Cells.erase, Function.update_of_ne hne]

theorem placedEntry_put (hplace : Function.Injective place) {requirement : HumanRequirement}
    {tenantId : Option JsString} {e : Instant} (id : JsString) :
    (id = requirement.dependencyId ∧
      placedEntry place (cells.put (place requirement.dependencyId)
        ⟨⟨requirement, tenantId⟩, e⟩) id = some requirement) ∨
    placedEntry place (cells.put (place requirement.dependencyId)
      ⟨⟨requirement, tenantId⟩, e⟩) id = placedEntry place cells id := by
  by_cases hid : id = requirement.dependencyId
  · subst hid
    exact Or.inl ⟨rfl, by simp [placedEntry, Cells.put]⟩
  · have hne : place id ≠ place requirement.dependencyId := fun heq => hid (hplace heq)
    exact Or.inr (by simp [placedEntry, Cells.put, Function.update_of_ne hne])

end Cells

/-! ## Redis -/

section Redis

variable {keyPrefix : JsString}

/-- No key is set for the empty id, which `#key` refuses. -/
def ValidRequirementDb (keyPrefix : JsString) (db : RedisTable StoredRequirement) : Prop :=
  PlacedRequirements (RedisX424Store.requirementKey keyPrefix) db ∧
    db (RedisX424Store.requirementKey keyPrefix []) = none

private theorem requirementKey_injective (keyPrefix : JsString) :
    Function.Injective (RedisX424Store.requirementKey keyPrefix) :=
  redisKey_injective keyPrefix (js "requirement")

private theorem ValidRequirementDb.erase {db : RedisTable StoredRequirement}
    (h : ValidRequirementDb keyPrefix db) (dependencyId : JsString) :
    ValidRequirementDb keyPrefix
      (db.erase (RedisX424Store.requirementKey keyPrefix dependencyId)) := by
  refine ⟨h.1.erase (requirementKey_injective keyPrefix), ?_⟩
  by_cases hid : dependencyId = []
  · simp [hid, Cells.erase]
  · have hne := (requirementKey_injective keyPrefix).ne (Ne.symm hid)
    simpa [Cells.erase, Function.update_of_ne hne] using h.2

theorem redis_keepsRequirements (keyPrefix : JsString) :
    KeepsRequirements (RedisX424Store.requirements keyPrefix) (ValidRequirementDb keyPrefix)
      (placedEntry (RedisX424Store.requirementKey keyPrefix)) (fun time => time) where
  valid_empty := ⟨fun _ _ h => (nomatch h), rfl⟩
  entry_empty _ := rfl
  named := by
    intro db dependencyId requirement h hentry
    obtain ⟨cell, hcell, rfl⟩ := Option.map_eq_some_iff.mp hentry
    exact (h.1 dependencyId cell hcell).1
  putFor := by
    intro db requirement tenantId now h
    have hplace := requirementKey_injective keyPrefix
    simp only [RedisX424Store.requirements, RedisX424Store.putRequirement,
      RedisX424Store.setOnce, RedisTable.setNx]
    split_ifs with htenant hempty hlive
    · exact ⟨h, fun id => Or.inr (Or.inl rfl)⟩
    · exact ⟨h, fun id => Or.inr (Or.inl rfl)⟩
    · cases futureExpiry requirement.expiresAt now <;>
        exact ⟨h, fun id => Or.inr (Or.inl rfl)⟩
    · cases hfuture : futureExpiry requirement.expiresAt now with
      | none => exact ⟨h, fun id => Or.inr (Or.inl rfl)⟩
      | some e =>
          have hexpires : requirement.expiresAt = some e :=
            (Option.filter_eq_some_iff.mp hfuture).1
          have hid : [] ≠ requirement.dependencyId := by
            intro heq
            simp [← heq] at hempty
          refine ⟨⟨h.1.put hplace hexpires, ?_⟩,
            fun id => (placedEntry_put hplace id).imp_right Or.inl⟩
          simpa [Cells.put, Function.update_of_ne (hplace.ne hid)] using h.2
  get := by
    intro db dependencyId checkedAt now h hle
    have hplace := requirementKey_injective keyPrefix
    simp only [RedisX424Store.requirements, RedisX424Store.getRequirement,
      RedisX424Store.readRequirement, RedisTable.get]
    split_ifs with hempty
    · refine ⟨h, fun id => Or.inl rfl, fun requirement hreply => by simp at hreply,
        fun requirement hentry => ?_⟩
      rw [List.isEmpty_iff.mp hempty, placedEntry, h.2] at hentry
      cases hentry
    · cases hlive : db.live now (RedisX424Store.requirementKey keyPrefix dependencyId) with
      | none =>
          refine ⟨h, fun id => Or.inl rfl, fun requirement hreply => by simp at hreply,
            fun requirement hentry hlapsed => ?_⟩
          obtain ⟨cell, hcell, rfl⟩ := Option.map_eq_some_iff.mp hentry
          have hpast := Cells.live_eq_none.mp hlive cell hcell
          rw [HumanRequirement.lapsed, (h.1 dependencyId cell hcell).2] at hlapsed
          exact absurd hpast (of_decide_eq_false hlapsed)
      | some cell =>
          obtain ⟨hcell, hnow⟩ := Cells.live_eq_some.mp hlive
          obtain ⟨_, hexpires⟩ := h.1 dependencyId cell hcell
          have hentry : placedEntry (RedisX424Store.requirementKey keyPrefix) db dependencyId =
              some cell.value.requirement := by
            simp [placedEntry, hcell]
          simp only [Option.map_some]
          split_ifs with hexpired
          · have hpast : cell.expiresAt ≤ checkedAt := by
              rw [StoredRequirement.expired, hexpires] at hexpired
              exact of_decide_eq_true hexpired
            exact absurd (Int.le_trans hpast hle) (Int.not_le.mpr hnow)
          · refine ⟨h, fun id => Or.inl rfl, fun requirement hreply => ?_,
              fun requirement hentry' _ => ?_⟩
            · simp only [Option.map_some, Except.ok.injEq, Option.some.injEq] at hreply
              subst hreply
              refine ⟨hentry, ?_⟩
              rw [lapsed_eq_expired]
              exact Bool.not_eq_true _ ▸ hexpired
            · rw [hentry, Option.some.injEq] at hentry'
              subst hentry'
              rfl
  delete := by
    intro db dependencyId now h
    simp only [RedisX424Store.requirements, RedisX424Store.deleteRequirement]
    split_ifs with hempty
    · refine ⟨h, ?_, fun id _ => rfl⟩
      rw [List.isEmpty_iff.mp hempty]
      exact congrArg (Option.map fun cell => cell.value.requirement) h.2
    · exact ⟨h.erase dependencyId, placedEntry_erase_same,
        fun id hid => placedEntry_erase_of_ne (requirementKey_injective keyPrefix) hid⟩
  deleteForTenant := by
    intro db dependencyId tenantId now h
    simp only [RedisX424Store.requirements, RedisX424Store.deleteRequirementForTenant]
    split_ifs with htenant hempty
    · exact ⟨h, by simp, fun id => Or.inr (Or.inl rfl)⟩
    · exact ⟨h, by simp, fun id => Or.inr (Or.inl rfl)⟩
    · cases db.get now (RedisX424Store.requirementKey keyPrefix dependencyId) with
      | none => exact ⟨h, by simp, fun id => Or.inr (Or.inl rfl)⟩
      | some stored =>
          simp only
          split_ifs
          · exact ⟨h, by simp, fun id => Or.inr (Or.inl rfl)⟩
          · refine ⟨h.erase dependencyId, fun _ => placedEntry_erase_same, fun id => ?_⟩
            by_cases hid : id = dependencyId
            · exact Or.inl ⟨hid, rfl⟩
            · exact Or.inr (Or.inl
                (placedEntry_erase_of_ne (requirementKey_injective keyPrefix) hid))

end Redis

/-! ## PostgreSQL -/

theorem postgres_keepsRequirements :
    KeepsRequirements PostgresX424Store.requirements (PlacedRequirements fun id => id)
      (placedEntry fun id => id) dateStringMs where
  valid_empty := fun _ _ h => (nomatch h)
  entry_empty _ := rfl
  named := by
    intro rows dependencyId requirement h hentry
    obtain ⟨row, hrow, rfl⟩ := Option.map_eq_some_iff.mp hentry
    exact (h dependencyId row hrow).1
  putFor := by
    intro rows requirement tenantId now h
    simp only [PostgresX424Store.requirements, PostgresX424Store.putRequirement,
      insertOnConflictDoNothing]
    split_ifs with htenant hrow
    · exact ⟨h, fun id => Or.inr (Or.inl rfl)⟩
    · cases requirement.expiresAt <;> exact ⟨h, fun id => Or.inr (Or.inl rfl)⟩
    · cases hexpires : requirement.expiresAt with
      | none => exact ⟨h, fun id => Or.inr (Or.inl rfl)⟩
      | some e =>
          exact ⟨h.put Function.injective_id hexpires,
            fun id => (placedEntry_put Function.injective_id id).imp_right Or.inl⟩
  get := by
    intro rows dependencyId checkedAt now h hle
    simp only [PostgresX424Store.requirements, PostgresX424Store.getRequirement,
      PostgresX424Store.readRequirement]
    cases hrow : rows dependencyId with
    | none =>
        refine ⟨h, fun id => Or.inl rfl, fun requirement hreply => by simp at hreply,
          fun requirement hentry => ?_⟩
        simp [placedEntry, hrow] at hentry
    | some row =>
        obtain ⟨_, hexpires⟩ := h dependencyId row hrow
        have hentry : placedEntry (fun id => id) rows dependencyId =
            some row.value.requirement := by
          simp [placedEntry, hrow]
        have hlapsed : ∀ time, row.value.requirement.lapsed dateStringMs time =
            decide (dateStringMs row.expiresAt ≤ time) := by
          intro time
          rw [HumanRequirement.lapsed, hexpires]
          rfl
        simp only
        split_ifs with hpast
        · refine ⟨h.erase Function.injective_id,
            fun id => h.kept_erase Function.injective_id hrow hle hpast id,
            fun requirement hreply => by simp at hreply, fun requirement hentry' hnow => ?_⟩
          rw [hentry, Option.some.injEq] at hentry'
          rw [← hentry', hlapsed] at hnow
          exact absurd (Int.le_trans hpast hle) (of_decide_eq_false hnow)
        · refine ⟨h, fun id => Or.inl rfl, fun requirement hreply => ?_,
            fun requirement hentry' _ => ?_⟩
          · simp only [Except.ok.injEq, Option.some.injEq] at hreply
            subst hreply
            exact ⟨hentry, (hlapsed checkedAt).trans (decide_eq_false hpast)⟩
          · rw [hentry] at hentry'
            rw [hentry']
  delete := by
    intro rows dependencyId now h
    exact ⟨h.erase Function.injective_id, placedEntry_erase_same,
      fun id hid => placedEntry_erase_of_ne Function.injective_id hid⟩
  deleteForTenant := by
    intro rows dependencyId tenantId now h
    simp only [PostgresX424Store.requirements, PostgresX424Store.deleteRequirementForTenant]
    split_ifs with htenant
    · exact ⟨h, by simp, fun id => Or.inr (Or.inl rfl)⟩
    · cases rows dependencyId with
      | none => exact ⟨h, by simp, fun id => Or.inr (Or.inl rfl)⟩
      | some row =>
          simp only
          split_ifs
          · refine ⟨h.erase Function.injective_id, fun _ => placedEntry_erase_same, fun id => ?_⟩
            by_cases hid : id = dependencyId
            · exact Or.inl ⟨hid, rfl⟩
            · exact Or.inr (Or.inl (placedEntry_erase_of_ne Function.injective_id hid))
          · exact ⟨h, by simp, fun id => Or.inr (Or.inl rfl)⟩

/-! ## Expiry -/

theorem StoredRequirement.expired_later {stored : StoredRequirement} {now later : Instant}
    (hle : now ≤ later) (h : stored.expired now) : stored.expired later := by
  have hlapsed := stored.lapsed_of_expired hle h
  rwa [HumanRequirement.lapsed, Option.map_id'] at hlapsed

theorem StoredRequirement.expired_eq {stored : StoredRequirement} {e now : Instant}
    (h : stored.requirement.expiresAt = some e) : stored.expired now = decide (e ≤ now) := by
  rw [StoredRequirement.expired, h]
  rfl

theorem filter_all {β : Type} (found : Option β) : (found.filter fun _ => true) = found := by
  cases found <;> rfl

def StoredRequirement.cell (stored : StoredRequirement) : Cell StoredRequirement :=
  ⟨stored, stored.requirement.expiresAt.getD 0⟩

namespace LastSecond

def requirement : HumanRequirement where
  x424Version := js "0.1"
  dependencyId := js "d"
  purpose := js "p"
  resource := ⟨js "POST", js "https://a.example/x", js "https://a.example",
    js "sha256:47DEQpj8HBSa-_TImW-5JCeuQeRkm5NMpJWZG3hSuFU"⟩
  nonce := js "n"
  binding := ⟨.session, js "s"⟩
  createdAt := some 0
  expiresAt := some 1500
  accepts := [⟨js "world", js "m", js "1", none, [.action], none, none⟩]
  providerRequestKeys := []

end LastSecond

end X424
