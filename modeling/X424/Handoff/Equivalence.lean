import X424.Foundation.Server
import X424.Handoff.StoreLaws

/-!
# The handoff stores side by side

The three stores are given the same calls at the same times.  The in-memory
maps are what the other two are compared with: as long as no call depends on a
record whose Redis key has lapsed, both tables hold what the maps hold.
-/

namespace X424

open Foundation

inductive HandoffRequest where
  | create (record : StoredHumanHandoff)
  | getAuthorized (handoffId accessTokenDigest : JsString)
  | update (previous next : StoredHumanHandoff)
  deriving DecidableEq, Repr

/-- `none` stands for a `getAuthorized` that does not return. -/
inductive HandoffReply where
  | created (reply : Except JsError Bool)
  | authorized (reply : Option (Except JsError (Option StoredHumanHandoff)))
  | updated (reply : Except JsError Bool)
  deriving DecidableEq

namespace HandoffStore

variable {σ : Type} (store : HandoffStore σ)

/-- `getAuthorized` with its update, reading again at most `fuel` times. -/
def getAuthorized (handoffId accessTokenDigest : JsString) (now : Instant) :
    (fuel : Nat) → σ → Option (Except JsError (Option StoredHumanHandoff)) × σ
  | 0, s => (none, s)
  | fuel + 1, s =>
      match store.fetch handoffId accessTokenDigest now now s with
      | (.unknown, s) => (some (.ok none), s)
      | (.found record, s) => (some (.ok (some record)), s)
      | (.expired record, s) => (some (.ok (some record)), s)
      | (.failed error, s) => (some (.error error), s)
      | (.expiring record, s) =>
          match store.update record record.expire now now s with
          | (.ok true, s) => (some (.ok (some record.expire)), s)
          | (.ok false, s) => getAuthorized handoffId accessTokenDigest now fuel s
          | (.error error, s) => (some (.error error), s)

def answer (fuel : Nat) (now : Instant) (request : HandoffRequest) (s : σ) : HandoffReply × σ :=
  match request with
  | .create record => ((store.create record now now s).map .created id)
  | .getAuthorized handoffId accessTokenDigest =>
      (store.getAuthorized handoffId accessTokenDigest now fuel s).map .authorized id
  | .update previous next => (store.update previous next now now s).map .updated id

def server (fuel : Nat) : Server σ HandoffRequest HandoffReply := ⟨store.answer fuel⟩

end HandoffStore

abbrev HandoffStates := InMemoryHandoffs × RedisHandoffDb × HandoffRows

def handoffServers (keyPrefix : JsString) (fuel : Nat) :
    Server HandoffStates HandoffRequest (HandoffReply × HandoffReply × HandoffReply) :=
  (inMemoryHandoffStore.server fuel).prod
    (((redisHandoffStore keyPrefix).server fuel).prod (postgresHandoffStore.server fuel))

/-! ## Comparable calls -/

section Comparable

variable (keyPrefix : JsString) (now : Instant)

def Unlapsed (s : HandoffStates) (handoffId : JsString) : Prop :=
  (s.1.records handoffId).isSome →
    (s.2.1.records.get now (RedisHandoffStore.recordKey keyPrefix handoffId)).isSome

/-- A later version of the same handoff, in a form that every store can read. -/
structure Continues (previous next : StoredHumanHandoff) : Prop where
  handoffId : next.handoffId = previous.handoffId
  dependencyId : next.dependencyId = previous.dependencyId
  accessTokenDigest : next.accessTokenDigest = previous.accessTokenDigest
  readable : parseStoredHumanHandoff next = .ok next

/-- No record that the call depends on has lapsed in Redis, a created record can be
read back, and an update replaces the record that it names by a later version. -/
def Comparable : HandoffRequest → HandoffStates → Prop
  | .create record, s =>
      parseStoredHumanHandoff record = .ok record ∧ now < record.expiresAt ∧
        Unlapsed keyPrefix now s record.handoffId ∧
        ∀ handoffId, s.1.activeDependencies record.dependencyId = some handoffId →
          Unlapsed keyPrefix now s handoffId
  | .getAuthorized handoffId accessTokenDigest, s =>
      ∀ record, s.1.records handoffId = some record →
        record.accessTokenDigest = accessTokenDigest → Unlapsed keyPrefix now s handoffId
  | .update previous next, s =>
      next.version = previous.version + 1 →
        previous.pollAfterMs.isSome ∧ next.pollAfterMs.isSome ∧
        ∀ current, s.1.records previous.handoffId = some current →
          current.version = previous.version →
          current.accessTokenDigest = previous.accessTokenDigest →
          current = previous ∧ previous.status.terminal = false ∧ Continues previous next ∧
            Unlapsed keyPrefix now s previous.handoffId

end Comparable

/-! ## The maps -/

structure InMemoryHandoffs.Sound (m : InMemoryHandoffs) : Prop where
  named : ∀ {handoffId record}, m.records handoffId = some record → record.handoffId = handoffId
  readable : ∀ {handoffId record}, m.records handoffId = some record →
    parseStoredHumanHandoff record = .ok record
  marked : ∀ {handoffId record}, m.records handoffId = some record →
    record.status.terminal = false → m.activeDependencies record.dependencyId = some handoffId
  owner : ∀ {dependencyId handoffId}, m.activeDependencies dependencyId = some handoffId →
    ∃ record, m.records handoffId = some record ∧ record.dependencyId = dependencyId

namespace InMemoryHandoffs.Sound

variable {m : InMemoryHandoffs} {record previous next : StoredHumanHandoff}

theorem create (h : m.Sound) (hrecord : m.records record.handoffId = none)
    (hmarker : m.activeDependencies record.dependencyId = none)
    (hreadable : parseStoredHumanHandoff record = .ok record) :
    (m.set record (Function.update m.activeDependencies record.dependencyId
      (some record.handoffId))).Sound := by
  have hold : ∀ {handoffId found}, m.records handoffId = some found →
      handoffId ≠ record.handoffId ∧ (found.status.terminal = false →
        found.dependencyId ≠ record.dependencyId) := by
    intro handoffId found hfound
    refine ⟨?_, fun hopen heq => ?_⟩
    · rintro rfl
      exact nomatch hrecord.symm.trans hfound
    · have hmarked := h.marked hfound hopen
      rw [heq, hmarker] at hmarked
      exact nomatch hmarked
  have hcases : ∀ {handoffId found},
      (m.set record (Function.update m.activeDependencies record.dependencyId
        (some record.handoffId))).records handoffId = some found →
      (handoffId = record.handoffId ∧ found = record) ∨ m.records handoffId = some found := by
    intro handoffId found hfound
    by_cases hid : handoffId = record.handoffId
    · subst hid
      exact Or.inl ⟨rfl, Option.some.inj (hfound.symm.trans (set_records_same _))⟩
    · exact Or.inr ((set_records_of_ne _ hid).symm.trans hfound)
  constructor
  · intro handoffId found hfound
    rcases hcases hfound with ⟨rfl, rfl⟩ | hfound
    · rfl
    · exact h.named hfound
  · intro handoffId found hfound
    rcases hcases hfound with ⟨rfl, rfl⟩ | hfound
    · exact hreadable
    · exact h.readable hfound
  · intro handoffId found hfound hopen
    rcases hcases hfound with ⟨rfl, rfl⟩ | hfound
    · exact Function.update_self _ _ _
    · exact (Function.update_of_ne ((hold hfound).2 hopen) _ _).trans (h.marked hfound hopen)
  · intro dependencyId handoffId howner
    by_cases hd : dependencyId = record.dependencyId
    · subst hd
      have hid := Option.some.inj (howner.symm.trans (Function.update_self _ _ _))
      subst hid
      exact ⟨record, set_records_same _, rfl⟩
    · obtain ⟨found, hfound, hdependency⟩ :=
        h.owner ((Function.update_of_ne hd _ _).symm.trans howner)
      exact ⟨found, (set_records_of_ne _ (hold hfound).1).trans hfound, hdependency⟩

theorem replace (h : m.Sound) (hprevious : m.records previous.handoffId = some previous)
    (hopen : previous.status.terminal = false) (hnext : Continues previous next) :
    (m.set next (if next.status.terminal then
      Function.update m.activeDependencies next.dependencyId none
      else m.activeDependencies)).Sound := by
  have hmarker := h.marked hprevious hopen
  have hcases : ∀ {handoffId found},
      (m.set next (if next.status.terminal then
        Function.update m.activeDependencies next.dependencyId none
        else m.activeDependencies)).records handoffId = some found →
      (handoffId = previous.handoffId ∧ found = next) ∨
        (handoffId ≠ previous.handoffId ∧ m.records handoffId = some found) := by
    intro handoffId found hfound
    by_cases hid : handoffId = next.handoffId
    · subst hid
      exact Or.inl ⟨hnext.handoffId,
        Option.some.inj (hfound.symm.trans (set_records_same _))⟩
    · exact Or.inr ⟨hnext.handoffId ▸ hid, (set_records_of_ne _ hid).symm.trans hfound⟩
  constructor
  · intro handoffId found hfound
    rcases hcases hfound with ⟨rfl, rfl⟩ | ⟨_, hfound⟩
    · exact hnext.handoffId
    · exact h.named hfound
  · intro handoffId found hfound
    rcases hcases hfound with ⟨rfl, rfl⟩ | ⟨_, hfound⟩
    · exact hnext.readable
    · exact h.readable hfound
  · intro handoffId found hfound hfoundOpen
    rcases hcases hfound with ⟨rfl, rfl⟩ | ⟨hne, hfound⟩
    · simp only [set, hfoundOpen, Bool.false_eq_true, if_false, hnext.dependencyId]
      exact hmarker
    · have hfoundMarker := h.marked hfound hfoundOpen
      simp only [set]
      split_ifs
      · have hd : found.dependencyId ≠ next.dependencyId := by
          intro heq
          rw [heq, hnext.dependencyId] at hfoundMarker
          exact hne (Option.some.inj (hfoundMarker.symm.trans hmarker))
        rw [Function.update_of_ne hd]
        exact hfoundMarker
      · exact hfoundMarker
  · intro dependencyId handoffId howner
    have hbefore : m.activeDependencies dependencyId = some handoffId := by
      simp only [set] at howner
      split_ifs at howner
      · by_cases hd : dependencyId = next.dependencyId
        · subst hd
          rw [Function.update_self] at howner
          cases howner
        · rwa [Function.update_of_ne hd] at howner
      · exact howner
    obtain ⟨found, hfound, hdependency⟩ := h.owner hbefore
    by_cases hid : handoffId = previous.handoffId
    · subst hid
      have heq := Option.some.inj (hprevious.symm.trans hfound)
      refine ⟨next, ?_, by rw [hnext.dependencyId, heq, hdependency]⟩
      rw [← hnext.handoffId]
      exact set_records_same _
    · exact ⟨found, (set_records_of_ne _ (hnext.handoffId ▸ hid)).trans hfound, hdependency⟩

end InMemoryHandoffs.Sound

section InMemory

variable {m : InMemoryHandoffs} {previous next : StoredHumanHandoff} {now : Instant}

theorem InMemoryHandoffStore.update_of_version (h : next.version ≠ previous.version + 1) :
    InMemoryHandoffStore.update previous next now now m = (.ok false, m) := by
  unfold InMemoryHandoffStore.update
  cases m.records previous.handoffId with
  | none => rfl
  | some current => exact if_pos (Or.inr (Or.inr h))

theorem InMemoryHandoffs.update_cases (m : InMemoryHandoffs) (previous next : StoredHumanHandoff)
    (now : Instant) :
    (∃ current, m.records previous.handoffId = some current ∧
      current.version = previous.version ∧
      current.accessTokenDigest = previous.accessTokenDigest ∧
      (next.version = previous.version + 1 →
        InMemoryHandoffStore.update previous next now now m =
          (.ok true, m.set next (if next.status.terminal then
            Function.update m.activeDependencies next.dependencyId none
            else m.activeDependencies)))) ∨
    ((∀ current, m.records previous.handoffId = some current →
        current.version = previous.version →
        current.accessTokenDigest ≠ previous.accessTokenDigest) ∧
      InMemoryHandoffStore.update previous next now now m = (.ok false, m)) := by
  unfold InMemoryHandoffStore.update
  cases hstored : m.records previous.handoffId with
  | none => exact Or.inr ⟨fun current hcurrent => (nomatch hcurrent), rfl⟩
  | some current =>
      by_cases hfound : current.version = previous.version ∧
          current.accessTokenDigest = previous.accessTokenDigest
      · refine Or.inl ⟨current, rfl, hfound.1, hfound.2, fun hversion => ?_⟩
        simp only [hfound.1, hfound.2, hversion, ne_eq, not_true_eq_false, or_self, if_false]
        rfl
      · refine Or.inr ⟨fun other hother hversion hdigest => hfound ?_, if_pos ?_⟩
        · rw [Option.some.inj hother]
          exact ⟨hversion, hdigest⟩
        · rw [not_and_or] at hfound
          exact hfound.imp_right Or.inl

end InMemory

/-! ## Redis -/

section Redis

open RedisHandoffStore

/-- The keys hold what the maps hold, lapsed or not, and the key of a marker
lapses with the key of its record. -/
structure RedisMatches (keyPrefix : JsString) (m : InMemoryHandoffs) (db : RedisHandoffDb) :
    Prop where
  records : ∀ handoffId,
    (db.records (recordKey keyPrefix handoffId)).map Cell.value = m.records handoffId
  markers : ∀ dependencyId,
    (db.dependencies (dependencyKey keyPrefix dependencyId)).map Cell.value =
    m.activeDependencies dependencyId
  together : ∀ {dependencyId cell},
    db.dependencies (dependencyKey keyPrefix dependencyId) = some cell →
    (db.records (recordKey keyPrefix cell.value)).map Cell.expiresAt = some cell.expiresAt

namespace RedisMatches

variable {keyPrefix : JsString} {now : Instant} {m : InMemoryHandoffs} {db : RedisHandoffDb}
  {rows : HandoffRows} {record previous next : StoredHumanHandoff}
  {handoffId dependencyId : JsString}

theorem stored_of_get (h : RedisMatches keyPrefix m db)
    (hget : db.records.get now (recordKey keyPrefix handoffId) = some record) :
    m.records handoffId = some record := by
  obtain ⟨cell, hlive, rfl⟩ := Option.map_eq_some_iff.mp hget
  rw [← h.records, (Cells.live_eq_some.mp hlive).1]
  rfl

theorem get_of_stored (h : RedisMatches keyPrefix m db)
    (hunlapsed : Unlapsed keyPrefix now (m, db, rows) handoffId)
    (hrecord : m.records handoffId = some record) :
    db.records.get now (recordKey keyPrefix handoffId) = some record := by
  obtain ⟨found, hfound⟩ := Option.isSome_iff_exists.mp
    (hunlapsed (Option.isSome_iff_exists.mpr ⟨record, hrecord⟩))
  rw [hfound, ← h.stored_of_get hfound, hrecord]

theorem get_isSome (h : RedisMatches keyPrefix m db)
    (hunlapsed : Unlapsed keyPrefix now (m, db, rows) handoffId) :
    (db.records.get now (recordKey keyPrefix handoffId)).isSome =
      (m.records handoffId).isSome := by
  cases hrecord : m.records handoffId with
  | none =>
      cases hget : db.records.get now (recordKey keyPrefix handoffId) with
      | none => rfl
      | some found => exact nomatch hrecord.symm.trans (h.stored_of_get hget)
  | some record => rw [h.get_of_stored hunlapsed hrecord]

theorem marker_of_get (h : RedisMatches keyPrefix m db)
    (hget : db.dependencies.get now (dependencyKey keyPrefix dependencyId) = some handoffId) :
    m.activeDependencies dependencyId = some handoffId := by
  obtain ⟨cell, hlive, rfl⟩ := Option.map_eq_some_iff.mp hget
  rw [← h.markers, (Cells.live_eq_some.mp hlive).1]
  rfl

theorem get_of_marker (h : RedisMatches keyPrefix m db)
    (hlive : (db.records.get now (recordKey keyPrefix handoffId)).isSome)
    (hmarker : m.activeDependencies dependencyId = some handoffId) :
    db.dependencies.get now (dependencyKey keyPrefix dependencyId) = some handoffId := by
  rw [← h.markers] at hmarker
  obtain ⟨cell, hcell, rfl⟩ := Option.map_eq_some_iff.mp hmarker
  obtain ⟨found, hfound, hexpires⟩ := Option.map_eq_some_iff.mp (h.together hcell)
  obtain ⟨value, hvalue⟩ := Option.isSome_iff_exists.mp hlive
  obtain ⟨other, hother, _⟩ := Option.map_eq_some_iff.mp hvalue
  obtain ⟨hsame, hnow⟩ := Cells.live_eq_some.mp hother
  rw [hfound, Option.some.injEq] at hsame
  rw [← hsame, hexpires] at hnow
  exact Option.map_eq_some_iff.mpr ⟨cell, Cells.live_eq_some.mpr ⟨hcell, hnow⟩, rfl⟩

private theorem recordKey_ne {a b : JsString} (h : a ≠ b) :
    recordKey keyPrefix a ≠ recordKey keyPrefix b :=
  (redisKey_injective keyPrefix (js "handoff")).ne h

private theorem dependencyKey_ne {a b : JsString} (h : a ≠ b) :
    dependencyKey keyPrefix a ≠ dependencyKey keyPrefix b :=
  (redisKey_injective keyPrefix (js "handoff-dependency")).ne h

theorem mark (h : RedisMatches keyPrefix m db) (expiresAtMs : Instant)
    (hfree : ∀ dependencyId, m.activeDependencies dependencyId = some record.handoffId →
      dependencyId = record.dependencyId) :
    RedisMatches keyPrefix
      (m.set record (Function.update m.activeDependencies record.dependencyId
        (some record.handoffId)))
      { records := db.records.put (recordKey keyPrefix record.handoffId) ⟨record, expiresAtMs⟩
        dependencies := db.dependencies.put (dependencyKey keyPrefix record.dependencyId)
          ⟨record.handoffId, expiresAtMs⟩ } := by
  constructor
  · intro handoffId
    by_cases hid : handoffId = record.handoffId
    · subst hid
      simp [Cells.put]
    · rw [InMemoryHandoffs.set_records_of_ne _ hid, ← h.records]
      simp [Cells.put, Function.update_of_ne (recordKey_ne hid)]
  · intro dependencyId
    by_cases hd : dependencyId = record.dependencyId
    · subst hd
      simp [Cells.put, InMemoryHandoffs.set]
    · simp only [InMemoryHandoffs.set, Function.update_of_ne hd, ← h.markers]
      simp [Cells.put, Function.update_of_ne (dependencyKey_ne hd)]
  · intro dependencyId cell hcell
    by_cases hd : dependencyId = record.dependencyId
    · subst hd
      simp only [Cells.put, Function.update_self, Option.some.injEq] at hcell
      subst hcell
      simp [Cells.put]
    · simp only [Cells.put, Function.update_of_ne (dependencyKey_ne hd)] at hcell
      have hne : cell.value ≠ record.handoffId := by
        intro heq
        refine hd (hfree dependencyId ?_)
        rw [← h.markers, hcell, ← heq]
        rfl
      simp only [Cells.put, Function.update_of_ne (recordKey_ne hne)]
      exact h.together hcell

theorem unmark (h : RedisMatches keyPrefix m db) (expiresAtMs : Instant)
    (hmarker : ∀ dependencyId, m.activeDependencies dependencyId = some record.handoffId →
      dependencyId = record.dependencyId) :
    RedisMatches keyPrefix
      (m.set record (Function.update m.activeDependencies record.dependencyId none))
      { records := db.records.put (recordKey keyPrefix record.handoffId) ⟨record, expiresAtMs⟩
        dependencies := db.dependencies.erase (dependencyKey keyPrefix record.dependencyId) } := by
  constructor
  · intro handoffId
    by_cases hid : handoffId = record.handoffId
    · subst hid
      simp [Cells.put]
    · rw [InMemoryHandoffs.set_records_of_ne _ hid, ← h.records]
      simp [Cells.put, Function.update_of_ne (recordKey_ne hid)]
  · intro dependencyId
    by_cases hd : dependencyId = record.dependencyId
    · subst hd
      simp [Cells.erase, InMemoryHandoffs.set]
    · simp only [InMemoryHandoffs.set, Function.update_of_ne hd, ← h.markers]
      simp [Cells.erase, Function.update_of_ne (dependencyKey_ne hd)]
  · intro dependencyId cell hcell
    by_cases hd : dependencyId = record.dependencyId
    · subst hd
      simp [Cells.erase] at hcell
    · simp only [Cells.erase, Function.update_of_ne (dependencyKey_ne hd)] at hcell
      have hne : cell.value ≠ record.handoffId := by
        intro heq
        refine hd (hmarker dependencyId ?_)
        rw [← h.markers, hcell, ← heq]
        rfl
      simp only [Cells.put, Function.update_of_ne (recordKey_ne hne)]
      exact h.together hcell

theorem create (h : RedisMatches keyPrefix m db) (hm : m.Sound)
    (hcomparable : Comparable keyPrefix now (.create record) (m, db, rows)) :
    (RedisHandoffStore.create keyPrefix record now now db).1 =
        (InMemoryHandoffStore.create record now now m).1 ∧
      RedisMatches keyPrefix (InMemoryHandoffStore.create record now now m).2
        (RedisHandoffStore.create keyPrefix record now now db).2 := by
  obtain ⟨hreadable, hunexpired, hrecord, hmarker⟩ := hcomparable
  have hmarkerKey : (db.dependencies.get now
      (dependencyKey keyPrefix record.dependencyId)).isSome =
        (m.activeDependencies record.dependencyId).isSome := by
    cases hactive : m.activeDependencies record.dependencyId with
    | none =>
        cases hget : db.dependencies.get now (dependencyKey keyPrefix record.dependencyId) with
        | none => rfl
        | some handoffId => exact nomatch hactive.symm.trans (h.marker_of_get hget)
    | some handoffId =>
        obtain ⟨found, hfound, _⟩ := hm.owner hactive
        have hlive := hmarker handoffId hactive (Option.isSome_iff_exists.mpr ⟨found, hfound⟩)
        rw [h.get_of_marker hlive hactive]
  unfold RedisHandoffStore.create createHandoffScript InMemoryHandoffStore.create
  rw [if_neg (Int.not_le.mpr hunexpired), canonicalJson_of_parse hreadable]
  simp only [h.get_isSome hrecord, hmarkerKey]
  by_cases hid : (m.records record.handoffId).isSome = true
  · simp [hid, h]
  · by_cases hd : (m.activeDependencies record.dependencyId).isSome = true
    · simp [hd, h]
    · simp only [hid, hd, or_self]
      refine ⟨rfl, h.mark record.expiresAt fun dependencyId hactive => ?_⟩
      obtain ⟨found, hfound, _⟩ := hm.owner hactive
      exact absurd (Option.isSome_iff_exists.mpr ⟨found, hfound⟩) hid

theorem updateScript (h : RedisMatches keyPrefix m db) (hm : m.Sound)
    (hprevious : m.records previous.handoffId = some previous)
    (hopen : previous.status.terminal = false) (hnext : Continues previous next)
    (hunlapsed : Unlapsed keyPrefix now (m, db, rows) previous.handoffId)
    (expiresAtMs : Instant) :
    let reply := updateHandoffScript now (recordKey keyPrefix previous.handoffId)
      (dependencyKey keyPrefix previous.dependencyId) previous next expiresAtMs
      next.status.terminal previous.handoffId db
    reply.1 = 1 ∧ RedisMatches keyPrefix
      (m.set next (if next.status.terminal then
        Function.update m.activeDependencies next.dependencyId none
        else m.activeDependencies)) reply.2 := by
  have hget := h.get_of_stored hunlapsed hprevious
  have hmarker := hm.marked hprevious hopen
  have howner : ∀ dependencyId, m.activeDependencies dependencyId = some next.handoffId →
      dependencyId = next.dependencyId := by
    intro dependencyId hactive
    obtain ⟨found, hfound, hdependency⟩ := hm.owner hactive
    rw [hnext.handoffId, hprevious, Option.some.injEq] at hfound
    rw [hnext.dependencyId, hfound, hdependency]
  have hdependency := h.get_of_marker (by rw [hget]; rfl) hmarker
  simp only [updateHandoffScript, hget, hdependency, ne_eq, not_true_eq_false, if_false,
    if_true, true_and]
  rw [← hnext.handoffId, ← hnext.dependencyId]
  split_ifs
  · exact h.unmark expiresAtMs howner
  · have hmark := h.mark expiresAtMs howner
    rwa [hnext.dependencyId, hnext.handoffId, ← hmarker, Function.update_eq_self,
      ← hnext.handoffId, ← hnext.dependencyId] at hmark

theorem replace (h : RedisMatches keyPrefix m db) (hm : m.Sound)
    (hprevious : m.records previous.handoffId = some previous)
    (hopen : previous.status.terminal = false) (hnext : Continues previous next)
    (hversion : next.version = previous.version + 1)
    (hunlapsed : Unlapsed keyPrefix now (m, db, rows) previous.handoffId) :
    (RedisHandoffStore.update keyPrefix previous next now now db).1 = .ok true ∧
      RedisMatches keyPrefix
        (m.set next (if next.status.terminal then
          Function.update m.activeDependencies next.dependencyId none
          else m.activeDependencies))
        (RedisHandoffStore.update keyPrefix previous next now now db).2 := by
  obtain ⟨hreply, hmatches⟩ := h.updateScript hm hprevious hopen hnext hunlapsed
    (max (now + 1000) next.expiresAt)
  unfold RedisHandoffStore.update
  rw [if_neg (not_not.mpr hversion), canonicalJson_of_parse (hm.readable hprevious),
    canonicalJson_of_parse hnext.readable]
  simp only [hreply]
  exact ⟨rfl, hmatches⟩

theorem update (h : RedisMatches keyPrefix m db) (hm : m.Sound)
    (hcomparable : Comparable keyPrefix now (.update previous next) (m, db, rows)) :
    (RedisHandoffStore.update keyPrefix previous next now now db).1 =
        (InMemoryHandoffStore.update previous next now now m).1 ∧
      RedisMatches keyPrefix (InMemoryHandoffStore.update previous next now now m).2
        (RedisHandoffStore.update keyPrefix previous next now now db).2 := by
  by_cases hversion : next.version = previous.version + 1
  · obtain ⟨hfinite, hnextFinite, hcurrent⟩ := hcomparable hversion
    rcases m.update_cases previous next now with ⟨current, hstored, hsame, hdigest, heq⟩ |
      ⟨hlost, heq⟩
    · obtain ⟨rfl, hopen, hnext, hunlapsed⟩ := hcurrent current hstored hsame hdigest
      rw [heq hversion]
      exact h.replace hm hstored hopen hnext hversion hunlapsed
    · have hget : db.records.get now (recordKey keyPrefix previous.handoffId) ≠ some previous :=
        fun hget => hlost previous (h.stored_of_get hget) rfl rfl
      rw [heq]
      unfold RedisHandoffStore.update
      rw [if_neg (not_not.mpr hversion), canonicalJson_of_isSome hfinite,
        canonicalJson_of_isSome hnextFinite]
      simp only [updateHandoffScript, hget, ne_eq, not_false_eq_true, if_true]
      exact ⟨rfl, h⟩
  · rw [InMemoryHandoffStore.update_of_version hversion]
    unfold RedisHandoffStore.update
    rw [if_pos hversion]
    exact ⟨rfl, h⟩

end RedisMatches

end Redis

/-! ## PostgreSQL -/

section Postgres

open HandoffRows

/-- The rows hold what the maps hold, and the marked ones are active. -/
structure PostgresMatches (m : InMemoryHandoffs) (rows : HandoffRows) : Prop where
  records : ∀ handoffId, (rows.find handoffId).map HandoffRow.document = m.records handoffId
  columns : ∀ {row}, row ∈ rows.rows →
    row.dependencyId = row.document.dependencyId ∧
      row.accessTokenDigest = row.document.accessTokenDigest ∧
      row.version = row.document.version
  markers : ∀ {row}, row ∈ rows.rows →
    (row.active = true ↔ m.activeDependencies row.dependencyId = some row.handoffId)

namespace PostgresMatches

variable {now : Instant} {m : InMemoryHandoffs} {rows : HandoffRows}
  {record previous next : StoredHumanHandoff} {handoffId dependencyId : JsString}

theorem row_of_stored (h : PostgresMatches m rows) (hrecord : m.records handoffId = some record) :
    ∃ row, rows.find handoffId = some row ∧ row ∈ rows.rows ∧ row.handoffId = handoffId ∧
      row.document = record := by
  rw [← h.records] at hrecord
  obtain ⟨row, hfind, hdocument⟩ := Option.map_eq_some_iff.mp hrecord
  obtain ⟨hmem, hid⟩ := Table.find_eq_some.mp hfind
  exact ⟨row, hfind, hmem, hid, hdocument⟩

theorem activeRow_isSome (h : PostgresMatches m rows) (hm : m.Sound) :
    (rows.activeRow dependencyId).isSome = (m.activeDependencies dependencyId).isSome := by
  cases hfound : rows.activeRow dependencyId with
  | some row =>
      obtain ⟨hmem, hactive, rfl⟩ := activeRow_mem hfound
      rw [(h.markers hmem).mp hactive]
      rfl
  | none =>
      cases hmarker : m.activeDependencies dependencyId with
      | none => rfl
      | some handoffId =>
          obtain ⟨record, hrecord, hdependency⟩ := hm.owner hmarker
          obtain ⟨row, _, hmem, hid, hdocument⟩ := h.row_of_stored hrecord
          have hd : row.dependencyId = dependencyId := by
            rw [(h.columns hmem).1, hdocument, hdependency]
          have hactive := (h.markers hmem).mpr (by rw [hd, hid, hmarker])
          exact absurd hd (activeRow_eq_none.mp hfound row hmem hactive)

theorem put (h : PostgresMatches m rows) (row : HandoffRow)
    (hid : row.document.handoffId = row.handoffId)
    (hcolumns : row.dependencyId = row.document.dependencyId ∧
      row.accessTokenDigest = row.document.accessTokenDigest ∧
      row.version = row.document.version)
    (hfree : ∀ handoffId, m.activeDependencies row.dependencyId = some handoffId →
      handoffId = row.handoffId) :
    PostgresMatches
      (m.set row.document (Function.update m.activeDependencies row.dependencyId
        (if row.active then some row.handoffId else none)))
      (rows.put row) := by
  have hother : ∀ {other}, other ∈ (rows.put row).rows → other ≠ row →
      other ∈ rows.rows ∧ other.handoffId ≠ row.handoffId := by
    intro other hmem hne
    exact (Table.mem_put.mp hmem).resolve_right hne
  constructor
  · intro handoffId
    by_cases heq : handoffId = row.handoffId
    · subst heq
      rw [Table.find_put_same, Option.map_some, ← hid, InMemoryHandoffs.set_records_same]
    · rw [Table.find_put_of_ne rows heq, h.records,
        InMemoryHandoffs.set_records_of_ne _ (hid ▸ heq)]
  · intro other hmem
    by_cases heq : other = row
    · rw [heq]
      exact hcolumns
    · exact h.columns (hother hmem heq).1
  · intro other hmem
    by_cases heq : other = row
    · subst heq
      cases hactive : other.active <;> simp [InMemoryHandoffs.set]
    · obtain ⟨hold, hne⟩ := hother hmem heq
      rw [h.markers hold]
      by_cases hd : other.dependencyId = row.dependencyId
      · rw [hd]
        have hbefore : m.activeDependencies row.dependencyId ≠ some other.handoffId :=
          fun hmarker => hne (hfree _ hmarker)
        cases hactive : row.active <;> simp [InMemoryHandoffs.set, hbefore, Ne.symm hne]
      · simp only [InMemoryHandoffs.set, Function.update_of_ne hd]

theorem create (h : PostgresMatches m rows) (hm : m.Sound)
    (hreadable : parseStoredHumanHandoff record = .ok record) :
    (PostgresHandoffStore.create record now now rows).1 =
        (InMemoryHandoffStore.create record now now m).1 ∧
      PostgresMatches (InMemoryHandoffStore.create record now now m).2
        (PostgresHandoffStore.create record now now rows).2 := by
  have hfind : (rows.find record.handoffId).isSome = (m.records record.handoffId).isSome := by
    rw [← h.records, Option.isSome_map]
  unfold PostgresHandoffStore.create InMemoryHandoffStore.create
  rw [canonicalJson_of_parse hreadable]
  simp only [hfind, h.activeRow_isSome hm]
  by_cases htaken : (m.records record.handoffId).isSome = true ∨
      (m.activeDependencies record.dependencyId).isSome = true
  · simp only [if_pos htaken]
    exact ⟨trivial, h⟩
  · simp only [if_neg htaken]
    refine ⟨trivial, h.put ⟨_, _, _, true, _, record⟩ rfl ⟨rfl, rfl, rfl⟩ ?_⟩
    intro handoffId hmarker
    exact absurd (Or.inr (Option.isSome_iff_exists.mpr ⟨handoffId, hmarker⟩)) htaken

theorem replace (h : PostgresMatches m rows) (hm : m.Sound)
    (hprevious : m.records previous.handoffId = some previous)
    (hopen : previous.status.terminal = false) (hnext : Continues previous next)
    (hversion : next.version = previous.version + 1) :
    (PostgresHandoffStore.update previous next now now rows).1 = .ok true ∧ PostgresMatches
      (m.set next (if next.status.terminal then
        Function.update m.activeDependencies next.dependencyId none
        else m.activeDependencies))
      (PostgresHandoffStore.update previous next now now rows).2 := by
  obtain ⟨row, hfind, hmem, hid, rfl⟩ := h.row_of_stored hprevious
  obtain ⟨hdependency, hdigest, hrowVersion⟩ := h.columns hmem
  have hmarker := hm.marked hprevious hopen
  have hfree : ∀ handoffId, m.activeDependencies row.dependencyId = some handoffId →
      handoffId = row.handoffId := by
    intro handoffId hactive
    rw [hdependency, hmarker, Option.some.injEq] at hactive
    rw [hid, hactive]
  have hothers : HandoffRows.activeRow (rows.erase row.handoffId) row.dependencyId = none := by
    rw [activeRow_eq_none]
    intro other hother hactive hd
    obtain ⟨hold, hne⟩ := Table.mem_erase.mp hother
    exact hne (hfree _ (hd ▸ (h.markers hold).mp hactive))
  have hput := h.put
    { row with active := !next.status.terminal, version := next.version, document := next }
    (hnext.handoffId.trans hid.symm)
    ⟨hdependency.trans hnext.dependencyId.symm, hdigest.trans hnext.accessTokenDigest.symm, rfl⟩
    hfree
  unfold PostgresHandoffStore.update
  rw [if_neg (not_not.mpr hversion), canonicalJson_of_parse hnext.readable, hfind]
  simp only [Option.filter_some, hdigest, hrowVersion, BEq.rfl, Bool.and_self, if_true, hothers,
    Option.isSome_none, Bool.false_eq_true, and_false, if_false]
  refine ⟨trivial, ?_⟩
  have hmarkers : Function.update m.activeDependencies row.dependencyId
      (if (!next.status.terminal) = true then some row.handoffId else none) =
      if next.status.terminal then Function.update m.activeDependencies next.dependencyId none
      else m.activeDependencies := by
    rw [hdependency, hid, hnext.dependencyId]
    cases next.status.terminal with
    | true => rfl
    | false =>
        simp only [Bool.not_false, if_true, Bool.false_eq_true, if_false, ← hmarker,
          Function.update_eq_self]
  simp only [hmarkers] at hput
  simpa only [hdigest, hrowVersion] using hput

theorem update (h : PostgresMatches m rows) (hm : m.Sound) {keyPrefix : JsString}
    {db : RedisHandoffDb}
    (hcomparable : Comparable keyPrefix now (.update previous next) (m, db, rows)) :
    (PostgresHandoffStore.update previous next now now rows).1 =
        (InMemoryHandoffStore.update previous next now now m).1 ∧
      PostgresMatches (InMemoryHandoffStore.update previous next now now m).2
        (PostgresHandoffStore.update previous next now now rows).2 := by
  by_cases hversion : next.version = previous.version + 1
  · obtain ⟨_, hnextFinite, hcurrent⟩ := hcomparable hversion
    rcases m.update_cases previous next now with ⟨current, hstored, hsame, hdigest, heq⟩ |
      ⟨hlost, heq⟩
    · obtain ⟨rfl, hopen, hnext, _⟩ := hcurrent current hstored hsame hdigest
      rw [heq hversion]
      exact h.replace hm hstored hopen hnext hversion
    · have hnone : ((rows.find previous.handoffId).filter fun row =>
          row.accessTokenDigest == previous.accessTokenDigest &&
            row.version == previous.version) = none := by
        rw [Option.filter_eq_none_iff]
        intro row hfind
        obtain ⟨hmem, hid⟩ := Table.find_eq_some.mp hfind
        have hstored : m.records previous.handoffId = some row.document := by
          rw [← h.records, hfind]
          rfl
        have hne := hlost row.document hstored
        rw [← (h.columns hmem).2.1, ← (h.columns hmem).2.2] at hne
        simp only [Bool.and_eq_true, beq_iff_eq, not_and]
        exact fun hdigest hrow => hne hrow hdigest
      rw [heq]
      unfold PostgresHandoffStore.update
      rw [if_neg (not_not.mpr hversion), canonicalJson_of_isSome hnextFinite]
      simp only [hnone]
      exact ⟨trivial, h⟩
  · rw [InMemoryHandoffStore.update_of_version hversion]
    unfold PostgresHandoffStore.update
    rw [if_pos hversion]
    exact ⟨rfl, h⟩

end PostgresMatches

end Postgres

/-! ## Reads -/

section Reads

variable {keyPrefix : JsString} {now : Instant} {m : InMemoryHandoffs} {db : RedisHandoffDb}
  {rows : HandoffRows} {record : StoredHumanHandoff} {handoffId accessTokenDigest : JsString}
  (fuel : Nat)

theorem InMemoryHandoffs.Sound.expire_continues (hm : m.Sound)
    (hrecord : m.records handoffId = some record) : Continues record record.expire :=
  ⟨rfl, rfl, rfl, parseStoredHumanHandoff_later (hm.readable hrecord) rfl (Nat.le_succ _)⟩

def Authorizes (m : InMemoryHandoffs) (handoffId accessTokenDigest : JsString)
    (record : StoredHumanHandoff) : Prop :=
  m.records handoffId = some record ∧ record.accessTokenDigest = accessTokenDigest

abbrev StoredHumanHandoff.Lapsed (record : StoredHumanHandoff) (now : Instant) : Prop :=
  record.expiresAt ≤ now ∧ record.status.terminal = false

def InMemoryHandoffs.expire (m : InMemoryHandoffs) (record : StoredHumanHandoff) :
    InMemoryHandoffs :=
  m.set record.expire (Function.update m.activeDependencies record.dependencyId none)

theorem inMemory_authorized (hm : m.Sound) :
    ((∀ record, ¬ Authorizes m handoffId accessTokenDigest record) ∧
      inMemoryHandoffStore.getAuthorized handoffId accessTokenDigest now (fuel + 1) m =
        (some (.ok none), m)) ∨
    (∃ record, Authorizes m handoffId accessTokenDigest record ∧ record.Lapsed now ∧
      inMemoryHandoffStore.getAuthorized handoffId accessTokenDigest now (fuel + 1) m =
        (some (.ok (some record.expire)), m.expire record)) ∨
    (∃ record, Authorizes m handoffId accessTokenDigest record ∧ ¬ record.Lapsed now ∧
      inMemoryHandoffStore.getAuthorized handoffId accessTokenDigest now (fuel + 1) m =
        (some (.ok (some record)), m)) := by
  have hfetch : inMemoryHandoffStore.fetch =
      InMemoryHandoffStore.getAuthorized := rfl
  simp only [HandoffStore.getAuthorized, hfetch, InMemoryHandoffStore.getAuthorized]
  cases hrecord : m.records handoffId with
  | none => exact Or.inl ⟨fun record h => (nomatch hrecord.symm.trans h.1), rfl⟩
  | some record =>
      obtain rfl := hm.named hrecord
      by_cases hdigest : record.accessTokenDigest = accessTokenDigest
      · by_cases hlapsed : record.Lapsed now
        · refine Or.inr (Or.inl ⟨record, ⟨hrecord, hdigest⟩, hlapsed, ?_⟩)
          simp only [hdigest, ne_eq, not_true_eq_false, if_false, if_pos hlapsed]
          rfl
        · refine Or.inr (Or.inr ⟨record, ⟨hrecord, hdigest⟩, hlapsed, ?_⟩)
          simp only [hdigest, ne_eq, not_true_eq_false, if_false, if_neg hlapsed]
      · refine Or.inl ⟨fun other h => hdigest ?_, ?_⟩
        · rw [Option.some.inj (hrecord.symm.trans h.1)]
          exact h.2
        · simp only [ne_eq, hdigest, not_false_eq_true, if_true]

theorem RedisMatches.authorized_none (h : RedisMatches keyPrefix m db) (hm : m.Sound)
    (hnone : ∀ record, ¬ Authorizes m handoffId accessTokenDigest record) :
    (redisHandoffStore keyPrefix).getAuthorized handoffId accessTokenDigest now (fuel + 1) db =
      (some (.ok none), db) := by
  have hfetch : (redisHandoffStore keyPrefix).fetch handoffId accessTokenDigest now now db =
      (.unknown, db) := by
    change RedisHandoffStore.getAuthorized keyPrefix handoffId accessTokenDigest now now db = _
    unfold RedisHandoffStore.getAuthorized
    cases hget : db.records.get now (RedisHandoffStore.recordKey keyPrefix handoffId) with
    | none => rfl
    | some record =>
        have hstored := h.stored_of_get hget
        have hdigest : record.accessTokenDigest ≠ accessTokenDigest :=
          fun hdigest => hnone record ⟨hstored, hdigest⟩
        simp only [hm.readable hstored, ne_eq, hdigest, not_false_eq_true, if_true]
  simp only [HandoffStore.getAuthorized, hfetch]

theorem RedisMatches.authorized_some (h : RedisMatches keyPrefix m db) (hm : m.Sound)
    (hrecord : Authorizes m handoffId accessTokenDigest record)
    (hunlapsed : Unlapsed keyPrefix now (m, db, rows) handoffId) :
    (record.Lapsed now → ∃ after,
      (redisHandoffStore keyPrefix).getAuthorized handoffId accessTokenDigest now (fuel + 1) db =
        (some (.ok (some record.expire)), after) ∧
      RedisMatches keyPrefix (m.expire record) after) ∧
    (¬ record.Lapsed now →
      (redisHandoffStore keyPrefix).getAuthorized handoffId accessTokenDigest now (fuel + 1) db =
        (some (.ok (some record)), db)) := by
  obtain ⟨hstored, rfl⟩ := hrecord
  obtain rfl := hm.named hstored
  have hget := h.get_of_stored hunlapsed hstored
  have hreadable := hm.readable hstored
  have hfetch : (redisHandoffStore keyPrefix).fetch record.handoffId record.accessTokenDigest now
      now db = if record.Lapsed now then (.expiring record, db) else (.found record, db) := by
    change RedisHandoffStore.getAuthorized keyPrefix record.handoffId record.accessTokenDigest now
      now db = _
    unfold RedisHandoffStore.getAuthorized
    simp only [hget, hreadable, ne_eq, not_true_eq_false, if_false]
  refine ⟨fun hlapsed => ?_, fun hlapsed => ?_⟩
  · obtain ⟨hreply, hmatches⟩ := h.replace hm hstored hlapsed.2 (hm.expire_continues hstored) rfl
      hunlapsed
    have hupdate : (redisHandoffStore keyPrefix).update record record.expire now now db =
        (.ok true, (RedisHandoffStore.update keyPrefix record record.expire now now db).2) :=
      Prod.ext hreply rfl
    refine ⟨_, ?_, hmatches⟩
    simp only [HandoffStore.getAuthorized, hfetch, if_pos hlapsed, hupdate]
  · simp only [HandoffStore.getAuthorized, hfetch, if_neg hlapsed]

theorem PostgresMatches.authorized_none (h : PostgresMatches m rows)
    (hnone : ∀ record, ¬ Authorizes m handoffId accessTokenDigest record) :
    postgresHandoffStore.getAuthorized handoffId accessTokenDigest now (fuel + 1) rows =
      (some (.ok none), rows) := by
  have hfetch : postgresHandoffStore.fetch handoffId accessTokenDigest now now rows =
      (.unknown, rows) := by
    change PostgresHandoffStore.getAuthorized handoffId accessTokenDigest now now rows = _
    have hfilter : ((rows.find handoffId).filter fun row =>
        row.accessTokenDigest == accessTokenDigest) = none := by
      rw [Option.filter_eq_none_iff]
      intro row hfind
      obtain ⟨hmem, _⟩ := Table.find_eq_some.mp hfind
      have hstored : m.records handoffId = some row.document := by
        rw [← h.records, hfind]
        rfl
      rw [beq_iff_eq, (h.columns hmem).2.1]
      exact fun hdigest => hnone row.document ⟨hstored, hdigest⟩
    unfold PostgresHandoffStore.getAuthorized
    simp only [hfilter]
  simp only [HandoffStore.getAuthorized, hfetch]

theorem PostgresMatches.authorized_some (h : PostgresMatches m rows) (hm : m.Sound)
    (hrecord : Authorizes m handoffId accessTokenDigest record) :
    (record.Lapsed now → ∃ after,
      postgresHandoffStore.getAuthorized handoffId accessTokenDigest now (fuel + 1) rows =
        (some (.ok (some record.expire)), after) ∧ PostgresMatches (m.expire record) after) ∧
    (¬ record.Lapsed now →
      postgresHandoffStore.getAuthorized handoffId accessTokenDigest now (fuel + 1) rows =
        (some (.ok (some record)), rows)) := by
  obtain ⟨hstored, rfl⟩ := hrecord
  obtain rfl := hm.named hstored
  have hreadable := hm.readable hstored
  have hfetch : postgresHandoffStore.fetch record.handoffId record.accessTokenDigest now now
      rows = if record.Lapsed now then (.expiring record, rows) else (.found record, rows) := by
    obtain ⟨row, hfind, hmem, _, hdocument⟩ := h.row_of_stored hstored
    change PostgresHandoffStore.getAuthorized record.handoffId record.accessTokenDigest now now
      rows = _
    unfold PostgresHandoffStore.getAuthorized
    simp only [hfind, Option.filter_some, (h.columns hmem).2.1, hdocument, BEq.rfl, if_true,
      hreadable]
  refine ⟨fun hlapsed => ?_, fun hlapsed => ?_⟩
  · obtain ⟨hreply, hmatches⟩ := @PostgresMatches.replace now _ _ _ _ h hm hstored hlapsed.2
      (hm.expire_continues hstored) rfl
    have hupdate : postgresHandoffStore.update record record.expire now now rows =
        (.ok true, (PostgresHandoffStore.update record record.expire now now rows).2) :=
      Prod.ext hreply rfl
    refine ⟨_, ?_, hmatches⟩
    simp only [HandoffStore.getAuthorized, hfetch, if_pos hlapsed, hupdate]
  · simp only [HandoffStore.getAuthorized, hfetch, if_neg hlapsed]

end Reads

/-! ## Runs -/

structure HandoffStates.Match (keyPrefix : JsString) (s : HandoffStates) : Prop where
  sound : s.1.Sound
  redis : RedisMatches keyPrefix s.1 s.2.1
  postgres : PostgresMatches s.1 s.2.2

def SameReply (reply : HandoffReply × HandoffReply × HandoffReply) : Prop :=
  reply.1 = reply.2.1 ∧ reply.1 = reply.2.2

theorem HandoffStates.Match.empty (keyPrefix : JsString) :
    HandoffStates.Match keyPrefix (inMemoryHandoffStore.empty, (redisHandoffStore keyPrefix).empty,
      postgresHandoffStore.empty) where
  sound :=
    { named := fun h => nomatch h
      readable := fun h => nomatch h
      marked := fun h => nomatch h
      owner := fun h => nomatch h }
  redis :=
    { records := fun _ => rfl
      markers := fun _ => rfl
      together := fun h => nomatch h }
  postgres :=
    { records := fun _ => rfl
      columns := fun h => nomatch h
      markers := fun h => nomatch h }

section Steps

variable {keyPrefix : JsString} {now : Instant} {s : HandoffStates} (fuel : Nat)

def Agrees {α : Type} (keyPrefix : JsString) (a : α × InMemoryHandoffs) (b : α × RedisHandoffDb)
    (c : α × HandoffRows) : Prop :=
  (b.1 = a.1 ∧ c.1 = a.1) ∧ HandoffStates.Match keyPrefix (a.2, b.2, c.2)

theorem HandoffStates.Match.create (h : s.Match keyPrefix) {record : StoredHumanHandoff}
    (hcomparable : Comparable keyPrefix now (.create record) s) :
    Agrees keyPrefix (InMemoryHandoffStore.create record now now s.1)
      (RedisHandoffStore.create keyPrefix record now now s.2.1)
      (PostgresHandoffStore.create record now now s.2.2) := by
  obtain ⟨hredis, hredisMatches⟩ := @RedisMatches.create _ _ _ _ s.2.2 _ h.redis h.sound hcomparable
  obtain ⟨hpostgres, hpostgresMatches⟩ :=
    @PostgresMatches.create now _ _ _ h.postgres h.sound hcomparable.1
  refine ⟨⟨hredis, hpostgres⟩, ?_, hredisMatches, hpostgresMatches⟩
  unfold InMemoryHandoffStore.create
  split_ifs with htaken
  · exact h.sound
  · simp only [not_or, Bool.not_eq_true, Option.isSome_eq_false_iff,
      Option.isNone_iff_eq_none] at htaken
    exact h.sound.create htaken.1 htaken.2 hcomparable.1

theorem HandoffStates.Match.update (h : s.Match keyPrefix) {previous next : StoredHumanHandoff}
    (hcomparable : Comparable keyPrefix now (.update previous next) s) :
    Agrees keyPrefix (InMemoryHandoffStore.update previous next now now s.1)
      (RedisHandoffStore.update keyPrefix previous next now now s.2.1)
      (PostgresHandoffStore.update previous next now now s.2.2) := by
  obtain ⟨hredis, hredisMatches⟩ :=
    @RedisMatches.update _ _ _ _ s.2.2 _ _ h.redis h.sound hcomparable
  obtain ⟨hpostgres, hpostgresMatches⟩ := h.postgres.update h.sound hcomparable
  refine ⟨⟨hredis, hpostgres⟩, ?_, hredisMatches, hpostgresMatches⟩
  by_cases hversion : next.version = previous.version + 1
  · rcases s.1.update_cases previous next now with ⟨current, hstored, hsame, hdigest, heq⟩ |
      ⟨_, heq⟩
    · obtain ⟨rfl, hopen, hnext, _⟩ := (hcomparable hversion).2.2 current hstored hsame hdigest
      rw [heq hversion]
      exact h.sound.replace hstored hopen hnext
    · rw [heq]
      exact h.sound
  · rw [InMemoryHandoffStore.update_of_version hversion]
    exact h.sound

theorem HandoffStates.Match.getAuthorized (h : s.Match keyPrefix)
    {handoffId accessTokenDigest : JsString}
    (hcomparable : Comparable keyPrefix now (.getAuthorized handoffId accessTokenDigest) s) :
    Agrees keyPrefix
      (inMemoryHandoffStore.getAuthorized handoffId accessTokenDigest now (fuel + 1) s.1)
      ((redisHandoffStore keyPrefix).getAuthorized handoffId accessTokenDigest now (fuel + 1)
        s.2.1)
      (postgresHandoffStore.getAuthorized handoffId accessTokenDigest now (fuel + 1) s.2.2) := by
  rcases inMemory_authorized fuel h.sound with ⟨hnone, heq⟩ | ⟨record, hrecord, hlapsed, heq⟩ |
    ⟨record, hrecord, hlapsed, heq⟩
  · rw [heq, h.redis.authorized_none fuel h.sound hnone, h.postgres.authorized_none fuel hnone]
    exact ⟨⟨rfl, rfl⟩, h⟩
  · have hunlapsed := hcomparable record hrecord.1 hrecord.2
    obtain ⟨db, hredis, hredisMatches⟩ :=
      (@RedisMatches.authorized_some _ _ _ _ s.2.2 _ _ _ fuel h.redis h.sound hrecord
        hunlapsed).1 hlapsed
    obtain ⟨rows, hpostgres, hpostgresMatches⟩ :=
      (h.postgres.authorized_some fuel h.sound hrecord).1 hlapsed
    rw [heq, hredis, hpostgres]
    refine ⟨⟨rfl, rfl⟩, ?_, hredisMatches, hpostgresMatches⟩
    obtain rfl := h.sound.named hrecord.1
    exact h.sound.replace hrecord.1 hlapsed.2 (h.sound.expire_continues hrecord.1)
  · have hunlapsed := hcomparable record hrecord.1 hrecord.2
    rw [heq, (@RedisMatches.authorized_some _ _ _ _ s.2.2 _ _ _ fuel h.redis h.sound hrecord
      hunlapsed).2 hlapsed,
      (h.postgres.authorized_some fuel h.sound hrecord).2 hlapsed]
    exact ⟨⟨rfl, rfl⟩, h⟩

theorem handoffServers_step {request : HandoffRequest} (h : s.Match keyPrefix)
    (hcomparable : Comparable keyPrefix now request s) :
    SameReply ((handoffServers keyPrefix (fuel + 1)).answer now request s).1 ∧
      ((handoffServers keyPrefix (fuel + 1)).answer now request s).2.Match keyPrefix := by
  cases request with
  | create record =>
      obtain ⟨⟨hredis, hpostgres⟩, hmatch⟩ := h.create hcomparable
      exact ⟨⟨congrArg HandoffReply.created hredis.symm,
        congrArg HandoffReply.created hpostgres.symm⟩, hmatch⟩
  | getAuthorized handoffId accessTokenDigest =>
      obtain ⟨⟨hredis, hpostgres⟩, hmatch⟩ := h.getAuthorized fuel hcomparable
      exact ⟨⟨congrArg HandoffReply.authorized hredis.symm,
        congrArg HandoffReply.authorized hpostgres.symm⟩, hmatch⟩
  | update previous next =>
      obtain ⟨⟨hredis, hpostgres⟩, hmatch⟩ := h.update hcomparable
      exact ⟨⟨congrArg HandoffReply.updated hredis.symm,
        congrArg HandoffReply.updated hpostgres.symm⟩, hmatch⟩

end Steps

/-- The stores give the same answers to every list of calls that meet the guard. -/
def HandoffStoresEquivalent (keyPrefix : JsString)
    (guard : JsString → Instant → HandoffRequest → HandoffStates → Prop) : Prop :=
  ∀ fuel time requests,
    let start : HandoffStates := (inMemoryHandoffStore.empty,
      (redisHandoffStore keyPrefix).empty, postgresHandoffStore.empty)
    (handoffServers keyPrefix (fuel + 1)).Along (guard keyPrefix) time start requests →
    ∀ reply ∈ (handoffServers keyPrefix (fuel + 1)).answers start requests, SameReply reply

/-- What the calls are said to meet at first: a created record has not expired. -/
def CreatesUnexpired (_keyPrefix : JsString) (now : Instant) (request : HandoffRequest)
    (_ : HandoffStates) : Prop :=
  ∀ record, request = .create record → now < record.expiresAt

namespace LapsedKey

def record : StoredHumanHandoff where
  handoffId := js "h"
  dependencyId := js "d"
  providerId := js "world"
  methodId := js "m"
  accessTokenDigest := js "a"
  status := .pending
  pollClaimExpiresAt := none
  presentation := ⟨js "https://p.example", none⟩
  protectedState := js "x"
  protectedCompletion := none
  failureCode := none
  pollAfterMs := some 1000
  expiresAt := 60000
  version := 1

def requests : List (Instant × HandoffRequest) :=
  [(0, .create record), (60000, .getAuthorized (js "h") (js "a"))]

end LapsedKey

theorem handoffStores_differ_after_expiry :
    ¬ ∀ keyPrefix, HandoffStoresEquivalent keyPrefix CreatesUnexpired := by
  intro h
  have hanswers := h (js "x424") 0 0 LapsedKey.requests
    ⟨Int.le_refl _, by rintro _ ⟨⟩; decide, by decide, by rintro _ ⟨⟩, trivial⟩
  have hread := hanswers
    (.authorized (some (.ok (some LapsedKey.record.expire))), .authorized (some (.ok none)),
      .authorized (some (.ok (some LapsedKey.record.expire)))) (by decide +kernel)
  exact absurd hread.1 (by decide +kernel)

theorem handoffStores_equivalent (keyPrefix : JsString) :
    HandoffStoresEquivalent keyPrefix Comparable := by
  intro fuel time requests start halong
  exact Server.forall_answers (I := HandoffStates.Match keyPrefix)
    (fun h hguard => handoffServers_step fuel h hguard) (.empty keyPrefix) halong

theorem handoffStores_equivalent_beforeExpiry :
    SameReply (.authorized (some (.ok (some LapsedKey.record))),
      .authorized (some (.ok (some LapsedKey.record))),
      .authorized (some (.ok (some LapsedKey.record)))) :=
  handoffStores_equivalent (js "x424") 0 0
    [(0, .create LapsedKey.record), (59999, .getAuthorized (js "h") (js "a"))]
    ⟨Int.le_refl _, ⟨by decide, by decide, nofun, nofun⟩, by decide,
      fun _ _ _ _ => by decide +kernel, trivial⟩ _ (by decide +kernel)

end X424
