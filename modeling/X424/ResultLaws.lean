import X424.Postgres
import X424.Redis

/-!
# What one call does to one result id

The plain `consume` and `accept` of the three backends, at a time that may be
later than the one the caller checked the expiry with.  Before the expiry a
result id is consumed once and bound to one operation.
-/

namespace X424

open Foundation

/-! ## One result id in a store -/

/-- The cell of a result id whose result expires at `e`. -/
def HoldsResult {β ν : Type} (place : JsString → JsString) (encode : β → ν)
    (id : JsString) (e : Instant) (bound : Option β) (cells : Cells JsString ν) : Prop :=
  cells (place id) = bound.map fun operation => ⟨encode operation, e⟩

namespace HoldsResult

variable {β ν : Type} {place : JsString → JsString} {encode : β → ν} {id : JsString}
  {e now : Instant} {bound : Option β} {cells : Cells JsString ν}

theorem live_eq (h : HoldsResult place encode id e bound cells) (hnow : now < e) :
    cells.live now (place id) = bound.map fun operation => ⟨encode operation, e⟩ := by
  rw [Cells.live, h]
  cases bound <;> simp [hnow]

theorem prune (h : HoldsResult place encode id e bound cells) (hnow : now < e) :
    HoldsResult place encode id e bound (cells.prune now) :=
  h.live_eq hnow

theorem put (operation : β) :
    HoldsResult place encode id e (some operation)
      (cells.put (place id) ⟨encode operation, e⟩) := by
  simp [HoldsResult, Cells.put]

theorem put_of_ne (hplace : Function.Injective place) {other : JsString} (hother : other ≠ id)
    (h : HoldsResult place encode id e bound cells) (cell : Cell ν) :
    HoldsResult place encode id e bound (cells.put (place other) cell) := by
  have hne : place id ≠ place other := fun heq => hother (hplace heq).symm
  simpa only [HoldsResult, Cells.put, Function.update_of_ne hne] using h

end HoldsResult

/-- A replay store lets a result be consumed once before its expiry, and other
results do not matter to it. -/
structure SpendsResults {σ : Type} (store : ResultReplayStore σ)
    (holds : JsString → Instant → Option Unit → σ → Prop) : Prop where
  empty : ∀ id e, holds id e none store.empty
  consume : ∀ {id e spent checkedAt now s}, holds id e spent s → checkedAt ≤ now → now < e →
    ((store.consume id (some e) checkedAt now s).1 = .ok true ∧ spent = none ∧
      holds id e (some ()) (store.consume id (some e) checkedAt now s).2) ∨
    ((store.consume id (some e) checkedAt now s).1 ≠ .ok true ∧
      holds id e spent (store.consume id (some e) checkedAt now s).2)
  other : ∀ {id e spent other expiresAt checkedAt now s}, holds id e spent s →
    checkedAt ≤ now → now < e → other ≠ id →
    holds id e spent (store.consume other expiresAt checkedAt now s).2

def acceptedReply (reply : Except JsError ResultAcceptanceStatus) : Prop :=
  reply = .ok .new ∨ reply = .ok .sameOperation

instance (reply : Except JsError ResultAcceptanceStatus) : Decidable (acceptedReply reply) :=
  inferInstanceAs (Decidable (_ ∨ _))

@[simp] theorem not_acceptedReply_error {error : JsError} : ¬ acceptedReply (.error error) := by
  simp [acceptedReply]

@[simp] theorem acceptedReply_ok {status : ResultAcceptanceStatus} :
    acceptedReply (.ok status) ↔ status ≠ .replay := by
  cases status <;> decide

/-- An acceptance store binds a result to one operation until its expiry. -/
structure BindsResults {τ : Type} (store : ResultAcceptanceStore τ)
    (holds : JsString → Instant → Option AcceptedOperation → τ → Prop) : Prop where
  empty : ∀ id e, holds id e none store.empty
  accept : ∀ (operation : AcceptedOperation) {id e bound checkedAt now s},
    holds id e bound s → checkedAt ≤ now → now < e →
    let reply := store.accept
      ⟨id, operation.operationId, operation.requestDigest, some e⟩ checkedAt now s
    (acceptedReply reply.1 ∧ (bound = none ∨ bound = some operation) ∧
      holds id e (some operation) reply.2) ∨
    (¬ acceptedReply reply.1 ∧ holds id e bound reply.2)
  other : ∀ {id e bound input checkedAt now s}, holds id e bound s → checkedAt ≤ now →
    now < e → input.resultId ≠ id →
    holds id e bound (store.accept input checkedAt now s).2

/-! ## The three backends -/

theorem inMemoryReplay_spendsResults :
    SpendsResults inMemoryResultReplayStore (HoldsResult id fun _ => ()) where
  empty _ _ := rfl
  consume := by
    intro resultId e spent checkedAt now s h hchecked hnow
    have hcheckedAt : checkedAt < e := Int.lt_of_le_of_lt hchecked hnow
    have hkept := h.prune hcheckedAt
    simp only [inMemoryResultReplayStore, InMemoryResultReplayStore.consume]
    split_ifs with hrefused hused
    · exact Or.inr ⟨by simp, h⟩
    · exact Or.inr ⟨by simp, hkept⟩
    · refine Or.inl ⟨rfl, ?_, HoldsResult.put ()⟩
      rw [Bool.not_eq_true, Option.isSome_eq_false_iff, Option.isNone_iff_eq_none] at hused
      change (s.prune checkedAt) (id resultId) = none at hused
      rw [hkept] at hused
      simpa using hused
  other := by
    intro resultId e spent other expiresAt checkedAt now s h hchecked hnow hother
    have hkept := h.prune (Int.lt_of_le_of_lt hchecked hnow)
    simp only [inMemoryResultReplayStore, InMemoryResultReplayStore.consume]
    cases expiresAt with
    | none => exact h
    | some expiresAtMs =>
        simp only
        split_ifs
        · exact h
        · exact hkept
        · exact hkept.put_of_ne Function.injective_id hother _

theorem redisReplay_spendsResults (keyPrefix : JsString) :
    SpendsResults (RedisX424Store.results keyPrefix)
      (HoldsResult (redisKey keyPrefix (js "result")) fun _ => js "1") where
  empty _ _ := rfl
  consume := by
    intro resultId e spent checkedAt now s h hchecked hnow
    have hfuture : futureExpiry (some e) checkedAt = some e := by
      simp [futureExpiry, Int.lt_of_le_of_lt hchecked hnow]
    simp only [RedisX424Store.results, RedisX424Store.consumeResult, hfuture,
      RedisTable.setNx, h.live_eq hnow, Option.isSome_map]
    split_ifs with hid hspent
    · exact Or.inr ⟨by simp, h⟩
    · exact Or.inr ⟨by simp, h⟩
    · exact Or.inl ⟨rfl, by simpa using hspent, HoldsResult.put ()⟩
  other := by
    intro resultId e spent other expiresAt checkedAt now s h hchecked hnow hother
    simp only [RedisX424Store.results, RedisX424Store.consumeResult, RedisTable.setNx]
    cases futureExpiry expiresAt checkedAt with
    | none => exact h
    | some expiresAtMs =>
        simp only
        split_ifs
        · exact h
        · exact h
        · exact h.put_of_ne (redisKey_injective keyPrefix _) hother _

theorem postgresReplay_spendsResults :
    SpendsResults PostgresX424Store.results (HoldsResult id fun _ => ()) where
  empty _ _ := rfl
  consume := by
    intro resultId e spent checkedAt now s h hchecked hnow
    have hpast : parsedLe (some e) checkedAt = false :=
      decide_eq_false (Int.not_le.mpr (Int.lt_of_le_of_lt hchecked hnow))
    have hrow : s resultId = spent.map fun _ => ⟨(), e⟩ := h
    simp only [PostgresX424Store.results, PostgresX424Store.consumeResult, hpast,
      insertOnConflictDoNothing, hrow, Option.isSome_map, Bool.false_eq_true, if_false]
    split_ifs with hspent
    · exact Or.inr ⟨by simp, h⟩
    · exact Or.inl ⟨rfl, by simpa using hspent, HoldsResult.put ()⟩
  other := by
    intro resultId e spent other expiresAt checkedAt now s h hchecked hnow hother
    simp only [PostgresX424Store.results, PostgresX424Store.consumeResult,
      insertOnConflictDoNothing]
    split_ifs
    · exact h
    · cases expiresAt with
      | none => exact h
      | some expiresAtMs => exact h
    · cases expiresAt with
      | none => exact h
      | some expiresAtMs => exact h.put_of_ne Function.injective_id hother _

theorem inMemoryAcceptance_bindsResults :
    BindsResults inMemoryResultAcceptanceStore (HoldsResult id id) where
  empty _ _ := rfl
  accept := by
    intro operation resultId e bound checkedAt now s h hchecked hnow
    have hkept := h.prune (Int.lt_of_le_of_lt hchecked hnow)
    have hcell : (s.prune checkedAt) resultId = bound.map fun operation => ⟨operation, e⟩ :=
      hkept
    simp only [inMemoryResultAcceptanceStore, InMemoryResultAcceptanceStore.accept]
    split_ifs with hrefused
    · exact Or.inr ⟨by simp, h⟩
    · rw [hcell]
      cases bound with
      | none => exact Or.inl ⟨Or.inl rfl, Or.inl rfl, HoldsResult.put operation⟩
      | some existing =>
          simp only [Option.map_some, AcceptedOperation.statusFor_eq,
            ResultAcceptanceInput.operation, acceptedReply_ok]
          by_cases hsame : existing = operation
          · subst hsame
            exact Or.inl ⟨by simp, Or.inr rfl, hkept⟩
          · exact Or.inr ⟨by simp [hsame], hkept⟩
  other := by
    intro resultId e bound input checkedAt now s h hchecked hnow hother
    have hkept := h.prune (Int.lt_of_le_of_lt hchecked hnow)
    simp only [inMemoryResultAcceptanceStore, InMemoryResultAcceptanceStore.accept]
    cases input.expiresAt with
    | none => exact h
    | some expiresAtMs =>
        simp only
        split_ifs
        · exact h
        · cases (s.prune checkedAt) input.resultId with
          | some existing => exact hkept
          | none => exact hkept.put_of_ne Function.injective_id hother _

theorem redisAcceptance_bindsResults (keyPrefix : JsString) :
    BindsResults (RedisX424Store.resultAcceptances keyPrefix)
      (HoldsResult (redisKey keyPrefix (js "acceptance")) AcceptedOperation.canonicalJson) where
  empty _ _ := rfl
  accept := by
    intro operation resultId e bound checkedAt now s h hchecked hnow
    have hfuture : futureExpiry (some e) checkedAt = some e := by
      simp [futureExpiry, Int.lt_of_le_of_lt hchecked hnow]
    simp only [RedisX424Store.resultAcceptances, RedisX424Store.acceptResult, hfuture,
      acceptResultScript, RedisTable.get, h.live_eq hnow]
    split_ifs with hrefused
    · exact Or.inr ⟨by simp, h⟩
    · cases bound with
      | none => exact Or.inl ⟨Or.inl rfl, Or.inl rfl, HoldsResult.put operation⟩
      | some existing =>
          simp only [Option.map_some, ResultAcceptanceInput.operation,
            AcceptedOperation.canonicalJson_inj]
          by_cases hsame : existing = operation
          · subst hsame
            exact Or.inl ⟨by simp [RedisX424Store.statusOfReply], Or.inr rfl, h⟩
          · exact Or.inr ⟨by simp [hsame, RedisX424Store.statusOfReply], h⟩
  other := by
    intro resultId e bound input checkedAt now s h hchecked hnow hother
    simp only [RedisX424Store.resultAcceptances, RedisX424Store.acceptResult,
      acceptResultScript]
    cases futureExpiry input.expiresAt checkedAt with
    | none => exact h
    | some expiresAtMs =>
        simp only
        split_ifs
        · exact h
        · cases RedisTable.get s now _ with
          | some current => exact h
          | none => exact h.put_of_ne (redisKey_injective keyPrefix _) hother _

theorem postgresAcceptance_bindsResults :
    BindsResults PostgresX424Store.resultAcceptances (HoldsResult id id) where
  empty _ _ := rfl
  accept := by
    intro operation resultId e bound checkedAt now s h hchecked hnow
    have hpast : parsedLe (some e) checkedAt = false :=
      decide_eq_false (Int.not_le.mpr (Int.lt_of_le_of_lt hchecked hnow))
    have hrow : s resultId = bound.map fun operation => ⟨operation, e⟩ := h
    have hlive : s.live now resultId = bound.map fun operation => ⟨operation, e⟩ :=
      h.live_eq hnow
    cases hformed : ResultAcceptanceInput.wellFormed
        ⟨resultId, operation.operationId, operation.requestDigest, some e⟩ with
    | false =>
        refine Or.inr ⟨?_, ?_⟩ <;>
          simp [PostgresX424Store.resultAcceptances, PostgresX424Store.acceptResult, hformed, h]
    | true =>
        simp only [PostgresX424Store.resultAcceptances, PostgresX424Store.acceptResult, hpast,
          hformed, insertOnConflictDoNothing, hrow, hlive]
        cases bound with
        | none => exact Or.inl ⟨Or.inl rfl, Or.inl rfl, HoldsResult.put operation⟩
        | some existing =>
            by_cases hsame : existing = operation
            · subst hsame
              refine Or.inl ⟨?_, Or.inr rfl, ?_⟩
              · simp [ResultAcceptanceInput.operation]
              · simpa [ResultAcceptanceInput.operation] using h
            · refine Or.inr ⟨?_, ?_⟩
              · simp [ResultAcceptanceInput.operation, hsame]
              · simpa [ResultAcceptanceInput.operation, hsame] using h
  other := by
    intro resultId e bound input checkedAt now s h hchecked hnow hother
    simp only [PostgresX424Store.resultAcceptances, PostgresX424Store.acceptResult,
      insertOnConflictDoNothing]
    cases input.expiresAt with
    | none => split_ifs <;> exact h
    | some expiresAtMs =>
        by_cases hrow : (s input.resultId).isSome
        · simp only [hrow, if_true, Bool.false_eq_true, if_false]
          split_ifs <;> exact h
        · have hput := h.put_of_ne Function.injective_id hother ⟨input.operation, expiresAtMs⟩
          simp only [hrow]
          split_ifs <;> first | exact h | exact hput

inductive IsReplayStore : (σ : Type) → ResultReplayStore σ → Prop where
  | inMemory : IsReplayStore _ inMemoryResultReplayStore
  | redis (keyPrefix : JsString) : IsReplayStore _ (RedisX424Store.results keyPrefix)
  | postgres : IsReplayStore _ PostgresX424Store.results

inductive IsAcceptanceStore : (τ : Type) → ResultAcceptanceStore τ → Prop where
  | inMemory : IsAcceptanceStore _ inMemoryResultAcceptanceStore
  | redis (keyPrefix : JsString) :
      IsAcceptanceStore _ (RedisX424Store.resultAcceptances keyPrefix)
  | postgres : IsAcceptanceStore _ PostgresX424Store.resultAcceptances

theorem IsReplayStore.spendsResults {σ : Type} {store : ResultReplayStore σ}
    (h : IsReplayStore σ store) : ∃ holds, SpendsResults store holds := by
  cases h with
  | inMemory => exact ⟨_, inMemoryReplay_spendsResults⟩
  | redis keyPrefix => exact ⟨_, redisReplay_spendsResults keyPrefix⟩
  | postgres => exact ⟨_, postgresReplay_spendsResults⟩

theorem IsAcceptanceStore.bindsResults {τ : Type} {store : ResultAcceptanceStore τ}
    (h : IsAcceptanceStore τ store) : ∃ holds, BindsResults store holds := by
  cases h with
  | inMemory => exact ⟨_, inMemoryAcceptance_bindsResults⟩
  | redis keyPrefix => exact ⟨_, redisAcceptance_bindsResults keyPrefix⟩
  | postgres => exact ⟨_, postgresAcceptance_bindsResults⟩

end X424
