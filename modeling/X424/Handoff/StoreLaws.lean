import X424.Handoff.Store

/-!
# What the handoff stores guarantee

The service relies on the laws of `KeepsHandoffs`, and each of the three
stores meets them: writes are all or nothing, an update replaces exactly the
record that it names, and the markers of dependencies follow the records.
-/

namespace X424

open Foundation

def Readable (strict : Bool) (record : StoredHumanHandoff) : Prop :=
  strict = true → parseStoredHumanHandoff record = .ok record

theorem Readable.later {strict : Bool} {record other : StoredHumanHandoff}
    (h : Readable strict record) (hidentity : other.identity = record.identity)
    (hversion : record.version ≤ other.version) : Readable strict other :=
  fun hstrict => parseStoredHumanHandoff_later (h hstrict) hidentity hversion

theorem Readable.next {strict : Bool} {record next : StoredHumanHandoff}
    (h : Readable strict record) (hnext : record.Succeeds next) : Readable strict next :=
  h.later hnext.identity (by rw [hnext.version]; exact Nat.le_succ _)

section Laws

variable {σ : Type} (store : HandoffStore σ) (strict : Bool)

/-- The record is stored, unless it has expired and was dropped at once. -/
structure Wrote (now : Instant) (s next : σ) (record : StoredHumanHandoff) : Prop where
  others : ∀ handoffId, handoffId ≠ record.handoffId →
    store.stored now next handoffId = store.stored now s handoffId
  same : store.stored now next record.handoffId = some record ∨
    (store.stored now next record.handoffId = none ∧ record.expiresAt ≤ now)

/-- The reply is true for a write that may take place, and else nothing is written. -/
def Writes (now : Instant) (s : σ) (record : StoredHumanHandoff) (may : Prop)
    (reply : Except JsError Bool × σ) : Prop :=
  (reply.1 = .ok true ∧ may ∧ Wrote store now s reply.2 record) ∨
    (reply.1 ≠ .ok true ∧ reply.2 = s)

def Fetches (handoffId accessTokenDigest : JsString) (checkedAt now : Instant) (s : σ) :
    Fetched × σ → Prop
  | (.unknown, next) =>
      next = s ∧ ∀ record, store.stored now s handoffId = some record →
        record.accessTokenDigest ≠ accessTokenDigest
  | (.found record, next) =>
      next = s ∧ store.stored now s handoffId = some record ∧ Readable strict record ∧
        (record.expiresAt ≤ checkedAt → record.status.terminal = true)
  | (.expired record, next) =>
      Wrote store now s next record ∧ ∃ previous, record = previous.expire ∧
        store.stored now s handoffId = some previous ∧ Readable strict previous ∧
        previous.status.terminal = false ∧ previous.expiresAt ≤ checkedAt
  | (.expiring record, next) =>
      next = s ∧ store.stored now s handoffId = some record ∧ Readable strict record ∧
        record.status.terminal = false ∧ record.expiresAt ≤ checkedAt
  | (.failed _, next) =>
      next = s ∧ ∃ record, store.stored now s handoffId = some record ∧ ¬ Readable strict record

structure KeepsHandoffs (valid : Instant → σ → Prop) : Prop where
  valid_empty : ∀ now, valid now store.empty
  valid_later : ∀ {now later s}, now ≤ later → valid now s → valid later s
  stored_empty : ∀ now handoffId, store.stored now store.empty handoffId = none
  stored_later : ∀ {now later s handoffId record}, now ≤ later →
    store.stored later s handoffId = some record → store.stored now s handoffId = some record
  stored_unexpired : ∀ {now later s handoffId record}, valid now s →
    store.stored now s handoffId = some record → now ≤ later → later < record.expiresAt →
    store.stored later s handoffId = some record
  named : ∀ {now s handoffId record}, valid now s →
    store.stored now s handoffId = some record → record.handoffId = handoffId
  marker_iff : ∀ {now s dependencyId handoffId}, valid now s →
    (store.marker now s dependencyId = some handoffId ↔
      ∃ record, store.stored now s handoffId = some record ∧
        record.dependencyId = dependencyId ∧ record.status.terminal = false)
  create : ∀ (checkedAt) {now s record}, valid now s → record.status.terminal = false →
    let reply := store.create record checkedAt now s
    valid now reply.2 ∧ Writes store now s record
      (store.stored now s record.handoffId = none ∧
        store.marker now s record.dependencyId = none) reply
  create_ok : ∀ {checkedAt now s record}, checkedAt < record.expiresAt →
    record.pollAfterMs.isSome → store.stored now s record.handoffId = none →
    store.marker now s record.dependencyId = none →
    (store.create record checkedAt now s).1 = .ok true
  fetch : ∀ (handoffId accessTokenDigest checkedAt) {now s}, valid now s →
    let reply := store.fetch handoffId accessTokenDigest checkedAt now s
    valid now reply.2 ∧ Fetches store strict handoffId accessTokenDigest checkedAt now s reply
  update : ∀ (checkedAt) {previous next now s}, valid now s → previous.status.terminal = false →
    previous.Succeeds next →
    (∀ current, store.stored now s previous.handoffId = some current →
      current.version = previous.version → current = previous) →
    let reply := store.update previous next checkedAt now s
    valid now reply.2 ∧
      Writes store now s next (store.stored now s previous.handoffId = some previous) reply
  update_ok : ∀ (checkedAt) {previous next now s}, valid now s →
    previous.status.terminal = false → previous.Succeeds next → Readable strict previous →
    store.stored now s previous.handoffId = some previous →
    (store.update previous next checkedAt now s).1 = .ok true

variable {store}

theorem Wrote.stores {now : Instant} {s next : σ} {record : StoredHumanHandoff}
    (h : Wrote store now s next record) :
    Stores handoffKind (store.stored now s) (store.stored now next) record where
  others := h.others
  same hcurrent := by
    rcases h.same with hsame | ⟨hnone, _⟩
    · exact Option.some.inj (hcurrent.symm.trans hsame)
    · exact absurd (hcurrent.symm.trans hnone) (by simp)

end Laws

/-! ## In memory -/

namespace InMemoryHandoffs

/-- The map of active dependencies names the records that are not terminal. -/
structure Valid (s : InMemoryHandoffs) : Prop where
  named : ∀ {handoffId record}, s.records handoffId = some record →
    record.handoffId = handoffId
  marked : ∀ {dependencyId handoffId}, s.activeDependencies dependencyId = some handoffId ↔
    ∃ record, s.records handoffId = some record ∧ record.dependencyId = dependencyId ∧
      record.status.terminal = false

/-- The maps after `record` was stored with these markers. -/
def set (s : InMemoryHandoffs) (record : StoredHumanHandoff)
    (activeDependencies : JsString → Option JsString) : InMemoryHandoffs where
  records := Function.update s.records record.handoffId (some record)
  activeDependencies := activeDependencies

variable {s : InMemoryHandoffs} {record current : StoredHumanHandoff}

@[simp] theorem set_records_same (markers : JsString → Option JsString) :
    (s.set record markers).records record.handoffId = some record :=
  Function.update_self _ _ _

theorem set_records_of_ne (markers : JsString → Option JsString) {handoffId : JsString}
    (h : handoffId ≠ record.handoffId) :
    (s.set record markers).records handoffId = s.records handoffId :=
  Function.update_of_ne h _ _

theorem wrote_set (now : Instant) (record : StoredHumanHandoff)
    (markers : JsString → Option JsString) :
    Wrote inMemoryHandoffStore now s (s.set record markers) record where
  others _ hid := set_records_of_ne markers hid
  same := Or.inl (set_records_same markers)

namespace Valid

theorem named_set (h : Valid s) (markers : JsString → Option JsString) {handoffId : JsString}
    {found : StoredHumanHandoff} (hfound : (s.set record markers).records handoffId = some found) :
    found.handoffId = handoffId := by
  by_cases hid : handoffId = record.handoffId
  · subst hid
    rw [set_records_same, Option.some.injEq] at hfound
    rw [hfound]
  · rw [set_records_of_ne markers hid] at hfound
    exact h.named hfound

theorem put (h : Valid s) (record : StoredHumanHandoff)
    (hfree : ∀ handoffId, s.activeDependencies record.dependencyId = some handoffId →
      handoffId = record.handoffId)
    (hdependency : ∀ current, s.records record.handoffId = some current →
      current.dependencyId = record.dependencyId) :
    Valid (s.set record (Function.update s.activeDependencies record.dependencyId
      (if record.status.terminal then none else some record.handoffId))) := by
  refine ⟨h.named_set _, fun {dependencyId handoffId} => ?_⟩
  by_cases hid : handoffId = record.handoffId
  · subst hid
    simp only [set_records_same, Option.some.injEq, exists_eq_left']
    by_cases hd : dependencyId = record.dependencyId
    · subst hd
      simp [set]
    · have hother : ¬ s.activeDependencies dependencyId = some record.handoffId := by
        rw [h.marked]
        rintro ⟨current, hcurrent, hdep, _⟩
        exact hd (hdep.symm.trans (hdependency current hcurrent))
      simp [set, Function.update_of_ne hd, hother, Ne.symm hd]
  · rw [set_records_of_ne _ hid, ← h.marked]
    by_cases hd : dependencyId = record.dependencyId
    · subst hd
      have hother : ¬ s.activeDependencies record.dependencyId = some handoffId :=
        fun hmark => hid (hfree handoffId hmark)
      simp [set, hother, Ne.symm hid]
    · simp [set, Function.update_of_ne hd]

theorem replace (h : Valid s) (hcurrent : s.records record.handoffId = some current)
    (hopen : current.status.terminal = false)
    (hdependency : record.dependencyId = current.dependencyId) :
    Valid (s.set record (if record.status.terminal then
      Function.update s.activeDependencies record.dependencyId none
      else s.activeDependencies)) := by
  have hmarker : s.activeDependencies record.dependencyId = some record.handoffId :=
    h.marked.mpr ⟨current, hcurrent, hdependency.symm, hopen⟩
  have hput := h.put record
    (fun handoffId hmark => Option.some.inj (hmark.symm.trans hmarker))
    (fun other hother => by rw [Option.some.inj (hother.symm.trans hcurrent), hdependency])
  cases hterminal : record.status.terminal with
  | true => simpa [hterminal] using hput
  | false => simpa [hterminal, ← hmarker] using hput

end Valid

end InMemoryHandoffs

section InMemory

variable {s : InMemoryHandoffs} {record previous next : StoredHumanHandoff}
  (checkedAt now : Instant)

open InMemoryHandoffs

private theorem inMemory_create (h : s.Valid) (hopen : record.status.terminal = false) :
    (InMemoryHandoffStore.create record checkedAt now s).2.Valid ∧
      Writes inMemoryHandoffStore now s record
        (s.records record.handoffId = none ∧ s.activeDependencies record.dependencyId = none)
        (InMemoryHandoffStore.create record checkedAt now s) := by
  unfold InMemoryHandoffStore.create
  split_ifs with htaken
  · exact ⟨h, Or.inr ⟨by simp, rfl⟩⟩
  · simp only [not_or, Bool.not_eq_true, Option.isSome_eq_false_iff,
      Option.isNone_iff_eq_none] at htaken
    have hput := h.put record (by simp [htaken.2]) (by simp [htaken.1])
    rw [hopen] at hput
    exact ⟨hput, Or.inl ⟨rfl, htaken, wrote_set now record _⟩⟩

private theorem inMemory_getAuthorized (h : s.Valid) (handoffId accessTokenDigest : JsString) :
    (InMemoryHandoffStore.getAuthorized handoffId accessTokenDigest checkedAt now s).2.Valid ∧
      Fetches inMemoryHandoffStore false handoffId accessTokenDigest checkedAt now s
        (InMemoryHandoffStore.getAuthorized handoffId accessTokenDigest checkedAt now s) := by
  have hreadable : ∀ found, Readable false found := fun _ hstrict => nomatch hstrict
  unfold InMemoryHandoffStore.getAuthorized
  cases hrecord : s.records handoffId with
  | none => exact ⟨h, rfl, fun _ hstored => absurd (hrecord.symm.trans hstored) (by simp)⟩
  | some record =>
      have hid := h.named hrecord
      subst hid
      simp only
      split_ifs with hdigest hexpired
      · refine ⟨h, rfl, fun found hfound => ?_⟩
        rwa [← Option.some.inj (hrecord.symm.trans hfound)]
      · have hreplaced : Valid (s.set record.expire _) := h.replace hrecord hexpired.2 rfl
        exact ⟨hreplaced, wrote_set now record.expire _, record, rfl, hrecord, hreadable _,
          hexpired.2, hexpired.1⟩
      · refine ⟨h, rfl, hrecord, hreadable _, fun hle => ?_⟩
        simpa [hle] using hexpired

private theorem inMemory_update (h : s.Valid) (hopen : previous.status.terminal = false)
    (hnext : previous.Succeeds next)
    (hmatches : ∀ current, s.records previous.handoffId = some current →
      current.version = previous.version → current = previous) :
    (InMemoryHandoffStore.update previous next checkedAt now s).2.Valid ∧
      Writes inMemoryHandoffStore now s next (s.records previous.handoffId = some previous)
        (InMemoryHandoffStore.update previous next checkedAt now s) := by
  unfold InMemoryHandoffStore.update
  cases hrecord : s.records previous.handoffId with
  | none => exact ⟨h, Or.inr ⟨by simp, rfl⟩⟩
  | some current =>
      simp only
      split
      · exact ⟨h, Or.inr ⟨by simp, rfl⟩⟩
      · next hguard =>
        simp only [not_or, not_not] at hguard
        have hcurrent : current = previous := hmatches current hrecord hguard.1
        subst hcurrent
        have hid := StoredHumanHandoff.handoffId_eq hnext.identity
        have hreplaced := h.replace (hid ▸ hrecord) hopen
          (StoredHumanHandoff.dependencyId_eq hnext.identity)
        exact ⟨hreplaced, Or.inl ⟨rfl, rfl, wrote_set now next _⟩⟩

theorem inMemory_keepsHandoffs :
    KeepsHandoffs inMemoryHandoffStore false fun _ => InMemoryHandoffs.Valid where
  valid_empty _ := ⟨fun h => (nomatch h), by simp [inMemoryHandoffStore]⟩
  valid_later _ h := h
  stored_empty _ _ := rfl
  stored_later _ h := h
  stored_unexpired _ h _ _ := h
  named h hstored := h.named hstored
  marker_iff h := h.marked
  create checkedAt _ _ _ h hopen := inMemory_create checkedAt _ h hopen
  create_ok := by
    intro checkedAt now s record _ _ hstored hmarker
    have hrecord : s.records record.handoffId = none := hstored
    have hactive : s.activeDependencies record.dependencyId = none := hmarker
    simp [inMemoryHandoffStore, InMemoryHandoffStore.create, hrecord, hactive]
  fetch handoffId digest checkedAt _ _ h := inMemory_getAuthorized checkedAt _ h handoffId digest
  update checkedAt _ _ _ _ h hopen hnext hmatches :=
    inMemory_update checkedAt _ h hopen hnext hmatches
  update_ok := by
    intro checkedAt previous next now s _ _ hnext _ hstored
    have hrecord : s.records previous.handoffId = some previous := hstored
    simp [inMemoryHandoffStore, InMemoryHandoffStore.update, hrecord, hnext.version]

end InMemory

/-! ## Redis -/

namespace RedisHandoffDb

open RedisHandoffStore

/-- A live marker names the live record that is not terminal, and both keys
lapse at the same time. -/
structure Valid (keyPrefix : JsString) (now : Instant) (db : RedisHandoffDb) : Prop where
  named : ∀ {handoffId cell}, db.records (recordKey keyPrefix handoffId) = some cell →
    cell.value.handoffId = handoffId ∧ cell.value.expiresAt ≤ cell.expiresAt
  marked : ∀ {dependencyId handoffId e},
    db.dependencies.live now (dependencyKey keyPrefix dependencyId) = some ⟨handoffId, e⟩ ↔
      ∃ record, db.records.live now (recordKey keyPrefix handoffId) = some ⟨record, e⟩ ∧
        record.dependencyId = dependencyId ∧ record.status.terminal = false

variable {keyPrefix : JsString} {now later e : Instant} {db : RedisHandoffDb}
  {record current : StoredHumanHandoff} {handoffId dependencyId : JsString}

/-- The tables after `record` was set with `PXAT e` and its dependency marked. -/
def set (keyPrefix : JsString) (db : RedisHandoffDb) (record : StoredHumanHandoff)
    (e : Instant) : RedisHandoffDb where
  records := db.records.put (recordKey keyPrefix record.handoffId) ⟨record, e⟩
  dependencies :=
    if record.status.terminal then
      db.dependencies.erase (dependencyKey keyPrefix record.dependencyId)
    else db.dependencies.put (dependencyKey keyPrefix record.dependencyId) ⟨record.handoffId, e⟩

theorem stored_eq_some :
    (redisHandoffStore keyPrefix).stored now db handoffId = some record ↔
      ∃ e, db.records.live now (recordKey keyPrefix handoffId) = some ⟨record, e⟩ := by
  simp only [redisHandoffStore, RedisTable.get, Option.map_eq_some_iff]
  constructor
  · rintro ⟨⟨value, e⟩, hlive, rfl⟩
    exact ⟨e, hlive⟩
  · rintro ⟨e, hlive⟩
    exact ⟨⟨record, e⟩, hlive, rfl⟩

theorem marker_eq_some :
    (redisHandoffStore keyPrefix).marker now db dependencyId = some handoffId ↔
      ∃ e, db.dependencies.live now (dependencyKey keyPrefix dependencyId) =
        some ⟨handoffId, e⟩ := by
  simp only [redisHandoffStore, RedisTable.get, Option.map_eq_some_iff]
  constructor
  · rintro ⟨⟨value, e⟩, hlive, rfl⟩
    exact ⟨e, hlive⟩
  · rintro ⟨e, hlive⟩
    exact ⟨⟨handoffId, e⟩, hlive, rfl⟩

private theorem recordKey_ne (h : handoffId ≠ record.handoffId) :
    recordKey keyPrefix handoffId ≠ recordKey keyPrefix record.handoffId :=
  (redisKey_injective keyPrefix (js "handoff")).ne h

private theorem dependencyKey_ne (h : dependencyId ≠ record.dependencyId) :
    dependencyKey keyPrefix dependencyId ≠ dependencyKey keyPrefix record.dependencyId :=
  (redisKey_injective keyPrefix (js "handoff-dependency")).ne h

theorem wrote_set (keyPrefix : JsString) (now : Instant) (db : RedisHandoffDb)
    (hle : record.expiresAt ≤ e) :
    Wrote (redisHandoffStore keyPrefix) now db (db.set keyPrefix record e) record where
  others handoffId hid := by
    simp only [redisHandoffStore, RedisTable.get, set,
      Cells.live_put_of_ne _ _ _ (recordKey_ne hid)]
  same := by
    simp only [redisHandoffStore, RedisTable.get, set, Cells.live_put_same]
    split_ifs with hlive
    · exact Or.inl rfl
    · exact Or.inr ⟨rfl, Int.le_trans hle (Int.not_lt.mp hlive)⟩

namespace Valid

theorem mono (h : Valid keyPrefix now db) (hle : now ≤ later) : Valid keyPrefix later db where
  named := h.named
  marked := by
    intro dependencyId handoffId e
    simp only [Cells.live_later hle, h.marked]
    constructor
    · rintro ⟨⟨record, hlive, hrest⟩, hlater⟩
      exact ⟨record, ⟨hlive, hlater⟩, hrest⟩
    · rintro ⟨record, ⟨hlive, hlater⟩, hrest⟩
      exact ⟨⟨record, hlive, hrest⟩, hlater⟩

theorem put (h : Valid keyPrefix now db) (hle : record.expiresAt ≤ e)
    (hfree : ∀ handoffId, (redisHandoffStore keyPrefix).marker now db record.dependencyId =
      some handoffId → handoffId = record.handoffId)
    (hdependency : ∀ current, (redisHandoffStore keyPrefix).stored now db record.handoffId =
      some current → current.dependencyId = record.dependencyId) :
    Valid keyPrefix now (db.set keyPrefix record e) := by
  constructor
  · intro handoffId cell hcell
    by_cases hid : handoffId = record.handoffId
    · subst hid
      simp only [set, Cells.put, Function.update_self, Option.some.injEq] at hcell
      rw [← hcell]
      exact ⟨rfl, hle⟩
    · simp only [set, Cells.put, Function.update_of_ne (recordKey_ne hid)] at hcell
      exact h.named hcell
  · intro dependencyId handoffId e'
    by_cases hid : handoffId = record.handoffId
    · subst hid
      simp only [set, Cells.live_put_same]
      by_cases hd : dependencyId = record.dependencyId
      · subst hd
        cases hterminal : record.status.terminal <;>
          by_cases hlive : now < e <;> simp [hlive, hterminal]
      · have hother : ¬ db.dependencies.live now (dependencyKey keyPrefix dependencyId) =
            some ⟨record.handoffId, e'⟩ := by
          rw [h.marked]
          rintro ⟨current, hcurrent, hdep, _⟩
          exact hd (hdep.symm.trans (hdependency current (stored_eq_some.mpr ⟨e', hcurrent⟩)))
        cases hterminal : record.status.terminal <;>
          by_cases hlive : now < e <;>
            simp [hlive, Cells.live_put_of_ne _ _ _ (dependencyKey_ne hd),
              Cells.live_erase_of_ne _ _ (dependencyKey_ne hd), hother, Ne.symm hd]
    · simp only [set, Cells.live_put_of_ne _ _ _ (recordKey_ne hid), ← h.marked]
      by_cases hd : dependencyId = record.dependencyId
      · subst hd
        have hother : ¬ db.dependencies.live now (dependencyKey keyPrefix record.dependencyId) =
            some ⟨handoffId, e'⟩ :=
          fun hmark => hid (hfree handoffId (marker_eq_some.mpr ⟨e', hmark⟩))
        cases hterminal : record.status.terminal <;>
          by_cases hlive : now < e <;> simp [hlive, hother, Ne.symm hid]
      · cases hterminal : record.status.terminal <;>
          simp [Cells.live_put_of_ne _ _ _ (dependencyKey_ne hd),
            Cells.live_erase_of_ne _ _ (dependencyKey_ne hd)]

theorem marker_iff (h : Valid keyPrefix now db) :
    (redisHandoffStore keyPrefix).marker now db dependencyId = some handoffId ↔
      ∃ record, (redisHandoffStore keyPrefix).stored now db handoffId = some record ∧
        record.dependencyId = dependencyId ∧ record.status.terminal = false := by
  simp only [marker_eq_some, stored_eq_some, h.marked]
  constructor
  · rintro ⟨e, record, hlive, hrest⟩
    exact ⟨record, ⟨e, hlive⟩, hrest⟩
  · rintro ⟨record, ⟨e, hlive⟩, hrest⟩
    exact ⟨e, record, hlive, hrest⟩

end Valid

end RedisHandoffDb

section Redis

variable {keyPrefix : JsString} {db : RedisHandoffDb} {record previous next : StoredHumanHandoff}
  (checkedAt now : Instant)

open RedisHandoffDb RedisHandoffStore

private theorem redis_create (h : db.Valid keyPrefix now)
    (hopen : record.status.terminal = false) :
    (RedisHandoffStore.create keyPrefix record checkedAt now db).2.Valid keyPrefix now ∧
      Writes (redisHandoffStore keyPrefix) now db record
        ((redisHandoffStore keyPrefix).stored now db record.handoffId = none ∧
          (redisHandoffStore keyPrefix).marker now db record.dependencyId = none)
        (RedisHandoffStore.create keyPrefix record checkedAt now db) := by
  unfold RedisHandoffStore.create StoredHumanHandoff.canonicalJson createHandoffScript
  split
  · exact ⟨h, Or.inr ⟨by simp, rfl⟩⟩
  cases record.pollAfterMs with
  | none => exact ⟨h, Or.inr ⟨by simp, rfl⟩⟩
  | some pollAfterMs =>
      simp only
      split_ifs with hrecord hmarker
      · exact ⟨h, Or.inr ⟨by simp, rfl⟩⟩
      · exact ⟨h, Or.inr ⟨by simp, rfl⟩⟩
      · simp only [Bool.not_eq_true, Option.isSome_eq_false_iff,
          Option.isNone_iff_eq_none] at hrecord hmarker
        have hput := h.put (Int.le_refl record.expiresAt)
          (fun handoffId hmark => absurd (hmarker.symm.trans hmark) (by simp))
          (fun current hcurrent => absurd (hrecord.symm.trans hcurrent) (by simp))
        have hwrote := wrote_set keyPrefix now db (Int.le_refl record.expiresAt)
        simp only [RedisHandoffDb.set, hopen, Bool.false_eq_true, if_false] at hput hwrote
        exact ⟨hput, Or.inl ⟨rfl, ⟨hrecord, hmarker⟩, hwrote⟩⟩

private theorem redis_getAuthorized (h : db.Valid keyPrefix now)
    (handoffId accessTokenDigest : JsString) :
    (RedisHandoffStore.getAuthorized keyPrefix handoffId accessTokenDigest checkedAt now db).2.Valid
        keyPrefix now ∧
      Fetches (redisHandoffStore keyPrefix) true handoffId accessTokenDigest checkedAt now db
        (RedisHandoffStore.getAuthorized keyPrefix handoffId accessTokenDigest checkedAt now
          db) := by
  unfold RedisHandoffStore.getAuthorized
  cases hvalue : db.records.get now (recordKey keyPrefix handoffId) with
  | none => exact ⟨h, rfl, fun _ hstored => absurd (hvalue.symm.trans hstored) (by simp)⟩
  | some value =>
      cases hparse : parseStoredHumanHandoff value with
      | error error =>
          simp only [hparse]
          exact ⟨h, rfl, value, hvalue,
            fun hreadable => nomatch hparse.symm.trans (hreadable rfl)⟩
      | ok record =>
          have hrecord := parseStoredHumanHandoff_eq hparse
          subst hrecord
          simp only [hparse]
          split_ifs with hdigest hexpired
          · refine ⟨h, rfl, fun found hfound => ?_⟩
            rwa [← Option.some.inj (hvalue.symm.trans hfound)]
          · exact ⟨h, rfl, hvalue, fun _ => hparse, hexpired.2, hexpired.1⟩
          · refine ⟨h, rfl, hvalue, fun _ => hparse, fun hle => ?_⟩
            simpa [hle] using hexpired

private theorem redis_update_eq (keyPrefix : JsString) (db : RedisHandoffDb)
    (hversion : next.version = previous.version + 1)
    (hdocuments : previous.pollAfterMs = next.pollAfterMs) :
    (∃ error, RedisHandoffStore.update keyPrefix previous next checkedAt now db =
      (.error error, db)) ∧ previous.canonicalJson ≠ .ok previous ∨
    RedisHandoffStore.update keyPrefix previous next checkedAt now db =
      let reply := updateHandoffScript now (recordKey keyPrefix previous.handoffId)
        (dependencyKey keyPrefix previous.dependencyId) previous next
        (max (checkedAt + 1000) next.expiresAt) next.status.terminal previous.handoffId db
      (.ok (reply.1 == 1), reply.2) := by
  unfold RedisHandoffStore.update StoredHumanHandoff.canonicalJson
  rw [if_neg (by simp [hversion]), hdocuments]
  cases next.pollAfterMs with
  | none => exact Or.inl ⟨⟨_, rfl⟩, by simp⟩
  | some pollAfterMs => exact Or.inr rfl

private theorem redis_update (h : db.Valid keyPrefix now)
    (hopen : previous.status.terminal = false) (hnext : previous.Succeeds next) :
    (RedisHandoffStore.update keyPrefix previous next checkedAt now db).2.Valid keyPrefix now ∧
      Writes (redisHandoffStore keyPrefix) now db next
        ((redisHandoffStore keyPrefix).stored now db previous.handoffId = some previous)
        (RedisHandoffStore.update keyPrefix previous next checkedAt now db) := by
  have hid := StoredHumanHandoff.handoffId_eq hnext.identity
  have hdependency := StoredHumanHandoff.dependencyId_eq hnext.identity
  rcases redis_update_eq checkedAt now keyPrefix db hnext.version
    (StoredHumanHandoff.pollAfterMs_eq hnext.identity).symm with ⟨⟨error, heq⟩, _⟩ | heq
  · rw [heq]
    exact ⟨h, Or.inr ⟨by simp, rfl⟩⟩
  · rw [heq]
    unfold updateHandoffScript
    by_cases hstored : db.records.get now (recordKey keyPrefix previous.handoffId) = some previous
    · have hmarker : db.dependencies.get now (dependencyKey keyPrefix previous.dependencyId) =
          some previous.handoffId := h.marker_iff.mpr ⟨previous, hstored, rfl, hopen⟩
      have hle := Int.le_max_right (checkedAt + 1000) next.expiresAt
      have hput := h.put hle
        (fun handoffId hmark => by
          rw [hdependency] at hmark
          rw [hid, Option.some.inj (hmark.symm.trans hmarker)])
        (fun current hcurrent => by
          rw [hid] at hcurrent
          rw [Option.some.inj (hcurrent.symm.trans hstored), hdependency])
      have hwrote := wrote_set keyPrefix now db hle
      simp only [RedisHandoffDb.set, hid, hdependency] at hput hwrote
      simp only [hstored, hmarker, ne_eq, not_true_eq_false, if_false, if_true]
      exact ⟨hput, Or.inl ⟨rfl, hstored, hwrote⟩⟩
    · simp only [ne_eq, hstored, not_false_eq_true, if_true]
      exact ⟨h, Or.inr ⟨by simp, rfl⟩⟩

theorem redis_keepsHandoffs (keyPrefix : JsString) :
    KeepsHandoffs (redisHandoffStore keyPrefix) true (RedisHandoffDb.Valid keyPrefix) where
  valid_empty _ := ⟨fun h => (nomatch h), by simp [redisHandoffStore]⟩
  valid_later hle h := h.mono hle
  stored_empty _ _ := rfl
  stored_later hle hstored := by
    obtain ⟨e, hlive⟩ := stored_eq_some.mp hstored
    exact stored_eq_some.mpr ⟨e, Cells.live_of_later hle hlive⟩
  stored_unexpired h hstored hle hunexpired := by
    obtain ⟨e, hlive⟩ := stored_eq_some.mp hstored
    have hkept := (h.named (Cells.live_eq_some.mp hlive).1).2
    exact stored_eq_some.mpr
      ⟨e, (Cells.live_later hle).mpr ⟨hlive, Int.lt_of_lt_of_le hunexpired hkept⟩⟩
  named h hstored := by
    obtain ⟨e, hlive⟩ := stored_eq_some.mp hstored
    exact (h.named (Cells.live_eq_some.mp hlive).1).1
  marker_iff h := h.marker_iff
  create checkedAt _ _ _ h hopen := redis_create checkedAt _ h hopen
  create_ok := by
    intro checkedAt now db record hunexpired hfinite hstored hmarker
    have hrecord : db.records.get now (recordKey keyPrefix record.handoffId) = none := hstored
    have hdependency :
        db.dependencies.get now (dependencyKey keyPrefix record.dependencyId) = none := hmarker
    simp [redisHandoffStore, RedisHandoffStore.create, createHandoffScript,
      Int.not_le.mpr hunexpired, canonicalJson_of_isSome hfinite, hrecord, hdependency]
  fetch handoffId digest checkedAt _ _ h := redis_getAuthorized checkedAt _ h handoffId digest
  update checkedAt _ _ _ _ h hopen hnext _ := redis_update checkedAt _ h hopen hnext
  update_ok := by
    intro checkedAt previous next now db h hopen hnext hreadable hstored
    have hdocument := canonicalJson_of_parse (hreadable rfl)
    have hget : db.records.get now (recordKey keyPrefix previous.handoffId) = some previous :=
      hstored
    rcases redis_update_eq checkedAt now keyPrefix db hnext.version
      (StoredHumanHandoff.pollAfterMs_eq hnext.identity).symm with ⟨_, hbad⟩ | heq
    · exact absurd hdocument hbad
    · change (RedisHandoffStore.update keyPrefix previous next checkedAt now db).1 = .ok true
      rw [heq]
      simp [updateHandoffScript, hget]

end Redis

/-! ## PostgreSQL -/

namespace HandoffRows

/-- The columns agree with the document, and no two rows of one dependency are active. -/
structure Valid (rows : HandoffRows) : Prop where
  columns : ∀ {row}, row ∈ rows.rows →
    row.document.handoffId = row.handoffId ∧ row.document.dependencyId = row.dependencyId ∧
      row.document.accessTokenDigest = row.accessTokenDigest ∧
      row.document.version = row.version ∧ row.active = !row.document.status.terminal
  unique : ∀ {row other}, row ∈ rows.rows → other ∈ rows.rows → row.active → other.active →
    row.dependencyId = other.dependencyId → row = other

variable {rows : HandoffRows} {row : HandoffRow} {record : StoredHumanHandoff}
  {handoffId dependencyId : JsString} {now : Instant}

theorem activeRow_mem (h : rows.activeRow dependencyId = some row) :
    row ∈ rows.rows ∧ row.active ∧ row.dependencyId = dependencyId :=
  ⟨List.mem_of_find?_eq_some h, by simpa using List.find?_some h⟩

theorem activeRow_eq_none :
    rows.activeRow dependencyId = none ↔
      ∀ row ∈ rows.rows, row.active → row.dependencyId ≠ dependencyId := by
  simp [activeRow, List.find?_eq_none]

theorem stored_eq_some :
    postgresHandoffStore.stored now rows handoffId = some record ↔
      ∃ row ∈ rows.rows, row.handoffId = handoffId ∧ row.document = record := by
  simp only [postgresHandoffStore, Option.map_eq_some_iff, Table.find_eq_some, and_assoc]

def ofRecord (record : StoredHumanHandoff) : HandoffRow where
  handoffId := record.handoffId
  dependencyId := record.dependencyId
  accessTokenDigest := record.accessTokenDigest
  active := !record.status.terminal
  version := record.version
  document := record

theorem wrote_put (now : Instant) (rows : HandoffRows) (record : StoredHumanHandoff) :
    Wrote postgresHandoffStore now rows (rows.put (ofRecord record)) record where
  others handoffId hid := by
    have hne : handoffId ≠ (ofRecord record).handoffId := hid
    exact congrArg (Option.map HandoffRow.document) (Table.find_put_of_ne rows hne)
  same := Or.inl (congrArg (Option.map HandoffRow.document)
    (Table.find_put_same rows (ofRecord record)))

namespace Valid

theorem put (h : Valid rows)
    (hfree : record.status.terminal = false → ∀ row ∈ rows.rows,
      row.handoffId ≠ record.handoffId → row.active → row.dependencyId ≠ record.dependencyId) :
    Valid (rows.put (ofRecord record)) := by
  constructor
  · intro row hrow
    rcases Table.mem_put.mp hrow with ⟨hold, _⟩ | rfl
    · exact h.columns hold
    · exact ⟨rfl, rfl, rfl, rfl, rfl⟩
  · intro row other hrow hother hactive hotherActive hdependency
    rcases Table.mem_put.mp hrow with ⟨hold, hne⟩ | rfl <;>
      rcases Table.mem_put.mp hother with ⟨hold', hne'⟩ | rfl
    · exact h.unique hold hold' hactive hotherActive hdependency
    · exact absurd hdependency (hfree (by simpa [ofRecord] using hotherActive) row hold hne hactive)
    · exact absurd hdependency.symm
        (hfree (by simpa [ofRecord] using hactive) other hold' hne' hotherActive)
    · rfl

theorem row_eq (h : Valid rows) (hrow : row ∈ rows.rows) : row = ofRecord row.document := by
  obtain ⟨hid, hdependency, hdigest, hversion, hactive⟩ := h.columns hrow
  cases row
  simp_all [ofRecord]

theorem others_inactive (h : Valid rows) (hrow : row ∈ rows.rows) (hactive : row.active) :
    HandoffRows.activeRow (rows.erase row.handoffId) row.dependencyId = none := by
  rw [activeRow_eq_none]
  intro other hother hotherActive hdependency
  obtain ⟨hmem, hne⟩ := Table.mem_erase.mp hother
  exact hne (by rw [h.unique hmem hrow hotherActive hactive hdependency])

theorem marker_iff (h : Valid rows) :
    postgresHandoffStore.marker now rows dependencyId = some handoffId ↔
      ∃ record, postgresHandoffStore.stored now rows handoffId = some record ∧
        record.dependencyId = dependencyId ∧ record.status.terminal = false := by
  simp only [stored_eq_some]
  constructor
  · intro hmarker
    obtain ⟨row, hfound, hid⟩ := Option.map_eq_some_iff.mp hmarker
    obtain ⟨hrow, hactive, hdependency⟩ := activeRow_mem hfound
    obtain ⟨_, hdep, _, _, hopen⟩ := h.columns hrow
    refine ⟨row.document, ⟨row, hrow, hid, rfl⟩, hdep.trans hdependency, ?_⟩
    simpa [hactive] using hopen
  · rintro ⟨record, ⟨row, hrow, hid, rfl⟩, hdependency, hopen⟩
    obtain ⟨_, hdep, _, _, hactive⟩ := h.columns hrow
    rw [hopen, Bool.not_false] at hactive
    cases hfound : rows.activeRow dependencyId with
    | none =>
        exact absurd (hdep.symm.trans hdependency) (activeRow_eq_none.mp hfound row hrow hactive)
    | some other =>
        obtain ⟨hother, hotherActive, hotherDep⟩ := activeRow_mem hfound
        have heq := h.unique hother hrow hotherActive hactive
          (hotherDep.trans (hdependency.symm.trans hdep))
        exact Option.map_eq_some_iff.mpr ⟨other, hfound, heq ▸ hid⟩

end Valid

end HandoffRows

section Postgres

variable {rows : HandoffRows} {record previous next : StoredHumanHandoff}
  (checkedAt now : Instant)

open HandoffRows

private theorem postgres_create (h : Valid rows) (hopen : record.status.terminal = false) :
    Valid (PostgresHandoffStore.create record checkedAt now rows).2 ∧
      Writes postgresHandoffStore now rows record
        (postgresHandoffStore.stored now rows record.handoffId = none ∧
          postgresHandoffStore.marker now rows record.dependencyId = none)
        (PostgresHandoffStore.create record checkedAt now rows) := by
  unfold PostgresHandoffStore.create StoredHumanHandoff.canonicalJson
  cases record.pollAfterMs with
  | none => exact ⟨h, Or.inr ⟨by simp, rfl⟩⟩
  | some pollAfterMs =>
      simp only
      split_ifs with htaken
      · exact ⟨h, Or.inr ⟨by simp, rfl⟩⟩
      · simp only [not_or, Bool.not_eq_true, Option.isSome_eq_false_iff,
          Option.isNone_iff_eq_none] at htaken
        have hput := h.put fun _ row hrow _ => activeRow_eq_none.mp htaken.2 row hrow
        have hwrote := wrote_put now rows record
        simp only [ofRecord, hopen, Bool.not_false] at hput hwrote
        refine ⟨hput, Or.inl ⟨rfl, ⟨?_, ?_⟩, hwrote⟩⟩
        · exact congrArg (Option.map HandoffRow.document) htaken.1
        · exact congrArg (Option.map HandoffRow.handoffId) htaken.2

private theorem postgres_getAuthorized (h : Valid rows) (handoffId accessTokenDigest : JsString) :
    Valid (PostgresHandoffStore.getAuthorized handoffId accessTokenDigest checkedAt now rows).2 ∧
      Fetches postgresHandoffStore true handoffId accessTokenDigest checkedAt now rows
        (PostgresHandoffStore.getAuthorized handoffId accessTokenDigest checkedAt now rows) := by
  unfold PostgresHandoffStore.getAuthorized
  cases hfound : (rows.find handoffId).filter fun row =>
      row.accessTokenDigest == accessTokenDigest with
  | none =>
      refine ⟨h, rfl, fun record hstored => ?_⟩
      obtain ⟨row, hrow, hid, rfl⟩ := stored_eq_some.mp hstored
      have hdigest := Option.filter_eq_none_iff.mp hfound row (Table.find_eq_some.mpr ⟨hrow, hid⟩)
      rw [(h.columns hrow).2.2.1]
      simpa using hdigest
  | some row =>
      obtain ⟨hfind, _⟩ := Option.filter_eq_some_iff.mp hfound
      obtain ⟨hrow, hid⟩ := Table.find_eq_some.mp hfind
      have hstored : postgresHandoffStore.stored now rows handoffId = some row.document :=
        stored_eq_some.mpr ⟨row, hrow, hid, rfl⟩
      cases hparse : parseStoredHumanHandoff row.document with
      | error error =>
          simp only [hparse]
          exact ⟨h, rfl, row.document, hstored,
            fun hreadable => nomatch hparse.symm.trans (hreadable rfl)⟩
      | ok record =>
          have hrecord := parseStoredHumanHandoff_eq hparse
          subst hrecord
          simp only [hparse]
          split_ifs with hexpired
          · exact ⟨h, rfl, hstored, fun _ => hparse, hexpired.2, hexpired.1⟩
          · refine ⟨h, rfl, hstored, fun _ => hparse, fun hle => ?_⟩
            simpa [hle] using hexpired

private theorem postgres_where (h : Valid rows)
    (hmatches : ∀ current, postgresHandoffStore.stored now rows previous.handoffId =
      some current → current.version = previous.version → current = previous)
    (row : HandoffRow) :
    (rows.find previous.handoffId).filter (fun row =>
      row.accessTokenDigest == previous.accessTokenDigest && row.version == previous.version) =
      some row ↔ row ∈ rows.rows ∧ row.document = previous := by
  rw [Option.filter_eq_some_iff, Table.find_eq_some, Bool.and_eq_true, beq_iff_eq, beq_iff_eq]
  constructor
  · rintro ⟨⟨hrow, hid⟩, _, hversion⟩
    refine ⟨hrow, hmatches row.document (stored_eq_some.mpr ⟨row, hrow, hid, rfl⟩) ?_⟩
    rw [(h.columns hrow).2.2.2.1, hversion]
  · rintro ⟨hrow, rfl⟩
    obtain ⟨hid, _, hdigest, hversion, _⟩ := h.columns hrow
    exact ⟨⟨hrow, hid.symm⟩, hdigest.symm, hversion.symm⟩

private theorem postgres_update_eq (h : Valid rows) (hopen : previous.status.terminal = false)
    (hnext : previous.Succeeds next)
    (hmatches : ∀ current, postgresHandoffStore.stored now rows previous.handoffId =
      some current → current.version = previous.version → current = previous) :
    (∃ error, next.canonicalJson = .error error ∧
      PostgresHandoffStore.update previous next checkedAt now rows = (.error error, rows)) ∨
    PostgresHandoffStore.update previous next checkedAt now rows =
      if postgresHandoffStore.stored now rows previous.handoffId = some previous then
        (.ok true, rows.put (ofRecord next))
      else (.ok false, rows) := by
  unfold PostgresHandoffStore.update
  rw [if_neg (by simp [hnext.version])]
  cases hjson : next.canonicalJson with
  | error error => exact Or.inl ⟨error, rfl, rfl⟩
  | ok document =>
      have hdocument := canonicalJson_eq hjson
      subst hdocument
      refine Or.inr ?_
      simp only
      cases hfound : (rows.find previous.handoffId).filter fun row =>
          row.accessTokenDigest == previous.accessTokenDigest &&
            row.version == previous.version with
      | none =>
          have hstored :
              postgresHandoffStore.stored now rows previous.handoffId ≠ some previous := by
            intro hstored
            obtain ⟨row, hrow, _, hprevious⟩ := stored_eq_some.mp hstored
            have := (postgres_where now h hmatches row).mpr ⟨hrow, hprevious⟩
            rw [hfound] at this
            cases this
          simp [hstored]
      | some row =>
          obtain ⟨hrow, rfl⟩ := (postgres_where now h hmatches row).mp hfound
          have heq := h.row_eq hrow
          have hactive : row.active = true := by
            rw [(h.columns hrow).2.2.2.2, hopen, Bool.not_false]
          have hstored : postgresHandoffStore.stored now rows row.document.handoffId =
              some row.document :=
            stored_eq_some.mpr ⟨row, hrow, (h.columns hrow).1.symm, rfl⟩
          have hput : { row with
              active := !document.status.terminal
              version := document.version
              document := document } = ofRecord document := by
            rw [ofRecord, StoredHumanHandoff.handoffId_eq hnext.identity,
              StoredHumanHandoff.dependencyId_eq hnext.identity,
              StoredHumanHandoff.accessTokenDigest_eq hnext.identity,
              (h.columns hrow).1, (h.columns hrow).2.1, (h.columns hrow).2.2.1]
          simp only [h.others_inactive hrow hactive, Option.isSome_none, Bool.false_eq_true,
            and_false, if_false, hstored, if_true, hput]

private theorem postgres_update (h : Valid rows) (hopen : previous.status.terminal = false)
    (hnext : previous.Succeeds next)
    (hmatches : ∀ current, postgresHandoffStore.stored now rows previous.handoffId =
      some current → current.version = previous.version → current = previous) :
    Valid (PostgresHandoffStore.update previous next checkedAt now rows).2 ∧
      Writes postgresHandoffStore now rows next
        (postgresHandoffStore.stored now rows previous.handoffId = some previous)
        (PostgresHandoffStore.update previous next checkedAt now rows) := by
  rcases postgres_update_eq checkedAt now h hopen hnext hmatches with ⟨error, _, heq⟩ | heq
  · rw [heq]
    exact ⟨h, Or.inr ⟨by simp, rfl⟩⟩
  rw [heq]
  split_ifs with hstored
  · obtain ⟨row, hrow, hid, hdocument⟩ := stored_eq_some.mp hstored
    have hactive : row.active = true := by
      rw [(h.columns hrow).2.2.2.2, hdocument, hopen, Bool.not_false]
    have hput : Valid (rows.put (ofRecord next)) := by
      refine h.put fun _ other hother hne hotherActive hdependency => hne ?_
      rw [StoredHumanHandoff.dependencyId_eq hnext.identity, ← hdocument,
        (h.columns hrow).2.1] at hdependency
      rw [h.unique hother hrow hotherActive hactive hdependency, hid,
        StoredHumanHandoff.handoffId_eq hnext.identity]
    exact ⟨hput, Or.inl ⟨rfl, hstored, wrote_put now rows next⟩⟩
  · exact ⟨h, Or.inr ⟨by simp, rfl⟩⟩

theorem postgres_keepsHandoffs :
    KeepsHandoffs postgresHandoffStore true fun _ => HandoffRows.Valid where
  valid_empty _ := ⟨fun h => (nomatch h), fun h => nomatch h⟩
  valid_later _ h := h
  stored_empty _ _ := rfl
  stored_later _ h := h
  stored_unexpired _ h _ _ := h
  named h hstored := by
    obtain ⟨row, hrow, hid, rfl⟩ := stored_eq_some.mp hstored
    rw [(h.columns hrow).1, hid]
  marker_iff h := h.marker_iff
  create checkedAt _ _ _ h hopen := postgres_create checkedAt _ h hopen
  create_ok := by
    intro checkedAt now rows record _ hfinite hstored hmarker
    have hfind : rows.find record.handoffId = none := Option.map_eq_none_iff.mp hstored
    have hactive : rows.activeRow record.dependencyId = none := Option.map_eq_none_iff.mp hmarker
    simp [postgresHandoffStore, PostgresHandoffStore.create, canonicalJson_of_isSome hfinite,
      hfind, hactive]
  fetch handoffId digest checkedAt _ _ h := postgres_getAuthorized checkedAt _ h handoffId digest
  update checkedAt _ _ _ _ h hopen hnext hmatches :=
    postgres_update checkedAt _ h hopen hnext hmatches
  update_ok := by
    intro checkedAt previous next now rows h hopen hnext hreadable hstored
    have hmatches : ∀ current, postgresHandoffStore.stored now rows previous.handoffId =
        some current → current.version = previous.version → current = previous :=
      fun current hcurrent _ => Option.some.inj (hcurrent.symm.trans hstored)
    change (PostgresHandoffStore.update previous next checkedAt now rows).1 = .ok true
    rcases postgres_update_eq checkedAt now h hopen hnext hmatches with ⟨error, herror, _⟩ | heq
    · exact nomatch herror.symm.trans (canonicalJson_of_parse (hreadable.next hnext rfl))
    · rw [heq, if_pos hstored]

end Postgres

end X424
