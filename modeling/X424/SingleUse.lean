import Mathlib.Data.List.Nodup
import X424.Foundation.Machine
import X424.Postgres
import X424.Redis
import X424.Service

/-!
# A dependency is satisfied at most once

The machine of this module lets any number of parties register and satisfy
requirements, or use the nonce store directly, in any order.  Each store has
its own way of remembering a consumed nonce: the in-memory store keeps the
entry, Redis and PostgreSQL delete it, so there a later registration brings the
nonce back.
-/

namespace X424

open Foundation

structure DependencyNonce where
  dependencyId : JsString
  nonce : JsString
  deriving DecidableEq, Repr

def HumanRequirement.dependencyNonce (requirement : HumanRequirement) : DependencyNonce :=
  ⟨requirement.dependencyId, requirement.nonce⟩

structure NonceRun (σ : Type) where
  store : σ
  clock : Instant
  /-- The `consume` calls that returned true. -/
  spent : List DependencyNonce
  /-- The `satisfy` calls past their `consume`. -/
  pending : List DependencyNonce
  /-- The `satisfy` calls that returned a result. -/
  returned : List DependencyNonce

/-- A time called `checkedAt` was read at or before the step. -/
inductive NonceEvent where
  | tick (time : Instant)
  | put (dependencyId nonce : JsString) (expiresAt : IsoTimestamp)
  | consume (dependencyId nonce : JsString) (checkedAt : Instant)
  | register (requirement : HumanRequirement) (checkedAt : Instant)
      (validateProviderRequest : HumanMethodRequirement → Except JsError Unit)
  | satisfy (requirement : HumanRequirement) (proof : HumanProofSubmission)
      (checkedAt : Instant)
  | settle (dependencyNonce : DependencyNonce) (returns : Bool)

namespace NonceRun

variable {σ : Type}

def initial (store : NonceStore σ) (clock : Instant) : NonceRun σ :=
  ⟨store.empty, clock, [], [], []⟩

/-- At most one `consume` returned true and at most one `satisfy` a result, for
every nonce of every dependency. -/
def SingleUse (run : NonceRun σ) : Prop := run.spent.Nodup ∧ run.returned.Nodup

end NonceRun

section Machine

variable {σ : Type} (service : X424Service) (nonceStore : NonceStore σ)

def nonceStep (run : NonceRun σ) : NonceEvent → Option (NonceRun σ)
  | .tick time => if run.clock ≤ time then some { run with clock := time } else none
  | .put dependencyId nonce expiresAt =>
      some { run with
        store := (nonceStore.put dependencyId nonce expiresAt run.clock run.store).2 }
  | .consume dependencyId nonce checkedAt =>
      if checkedAt ≤ run.clock then
        match nonceStore.consume dependencyId nonce checkedAt run.clock run.store with
        | (.ok true, store) =>
            some { run with store, spent := ⟨dependencyId, nonce⟩ :: run.spent }
        | (_, store) => some { run with store }
      else none
  | .register requirement checkedAt validateProviderRequest =>
      if checkedAt ≤ run.clock then
        some { run with
          store := (service.register nonceStore requirement checkedAt run.clock
            validateProviderRequest run.store).2 }
      else none
  | .satisfy requirement proof checkedAt =>
      if checkedAt ≤ run.clock then
        match service.beginSatisfy nonceStore requirement proof checkedAt run.clock
            run.store with
        | (.ok _, store) =>
            some { run with
              store
              spent := requirement.dependencyNonce :: run.spent
              pending := requirement.dependencyNonce :: run.pending }
        | (.error _, store) => some { run with store }
      else none
  | .settle dependencyNonce returns =>
      if dependencyNonce ∈ run.pending then
        some { run with
          pending := run.pending.erase dependencyNonce
          returned := if returns then dependencyNonce :: run.returned else run.returned }
      else none

def nonceMachine : Machine (NonceRun σ) NonceEvent := ⟨nonceStep service nonceStore⟩

/-- No nonce is put into the store again after it has been consumed. -/
def NotPutAgain (run : NonceRun σ) : NonceEvent → Prop
  | .put dependencyId nonce _ => ⟨dependencyId, nonce⟩ ∉ run.spent
  | .register requirement _ _ => requirement.dependencyNonce ∉ run.spent
  | _ => True

def SatisfiesOnce (guard : NonceRun σ → NonceEvent → Prop) : Prop :=
  ∀ (clock : Instant) (run : NonceRun σ),
    (nonceMachine service nonceStore).Reaches guard (NonceRun.initial nonceStore clock) run →
    run.SingleUse

end Machine

theorem X424Service.register_store {σ : Type} (service : X424Service)
    (nonceStore : NonceStore σ) (requirement : HumanRequirement) (checkedAt now : Instant)
    (validate : HumanMethodRequirement → Except JsError Unit) (s : σ) :
    (service.register nonceStore requirement checkedAt now validate s).2 = s ∨
    (service.register nonceStore requirement checkedAt now validate s).2 =
      (nonceStore.put requirement.dependencyId requirement.nonce requirement.expiresAt
        now s).2 := by
  unfold register
  cases service.checkRegistration requirement checkedAt validate with
  | error error => exact Or.inl rfl
  | ok _ => exact Or.inr rfl

/-- What the first part of `satisfy` does to the store, and what its success says. -/
theorem X424Service.beginSatisfy_cases {σ : Type} (service : X424Service)
    (nonceStore : NonceStore σ) (requirement : HumanRequirement)
    (proof : HumanProofSubmission) (checkedAt now : Instant) (s : σ) :
    (∃ error, service.beginSatisfy nonceStore requirement proof checkedAt now s =
        (.error error, s)) ∨
    (∃ error, service.beginSatisfy nonceStore requirement proof checkedAt now s =
        (.error error, (nonceStore.consume requirement.dependencyId requirement.nonce
          checkedAt now s).2)) ∨
    (∃ admitted, service.checkSatisfaction requirement proof checkedAt = .ok admitted ∧
      (nonceStore.consume requirement.dependencyId requirement.nonce checkedAt now s).1 =
        .ok true ∧
      service.beginSatisfy nonceStore requirement proof checkedAt now s =
        (.ok admitted, (nonceStore.consume requirement.dependencyId requirement.nonce
          checkedAt now s).2)) := by
  unfold beginSatisfy
  cases service.checkSatisfaction requirement proof checkedAt with
  | error error => exact Or.inl ⟨error, rfl⟩
  | ok admitted =>
      dsimp only
      generalize nonceStore.consume requirement.dependencyId requirement.nonce checkedAt now
        s = reply
      obtain ⟨answer, s'⟩ := reply
      match answer with
      | .error error => exact Or.inr (Or.inl ⟨error, rfl⟩)
      | .ok false => exact Or.inr (Or.inl ⟨_, rfl⟩)
      | .ok true => exact Or.inr (Or.inr ⟨admitted, rfl, rfl, rfl⟩)

/-! ## What a store remembers of a consumed nonce -/

/--
`Gone s dn` says that the state `s` refuses to consume `dn`.  It comes from a
successful consume and lasts through every operation; in a `revivable` store a
put of the same nonce is the exception.
-/
structure SpendsOnce {σ : Type} (nonceStore : NonceStore σ) (revivable : Bool)
    (Gone : σ → DependencyNonce → Prop) : Prop where
  refused : ∀ {s dependencyId nonce checkedAt now}, Gone s ⟨dependencyId, nonce⟩ →
    (nonceStore.consume dependencyId nonce checkedAt now s).1 ≠ .ok true
  spent : ∀ {s dependencyId nonce checkedAt now},
    (nonceStore.consume dependencyId nonce checkedAt now s).1 = .ok true →
    Gone (nonceStore.consume dependencyId nonce checkedAt now s).2 ⟨dependencyId, nonce⟩
  consume : ∀ {s dn} (dependencyId nonce checkedAt now), Gone s dn →
    Gone (nonceStore.consume dependencyId nonce checkedAt now s).2 dn
  put : ∀ {s dn} (dependencyId nonce expiresAt now), Gone s dn →
    (revivable = true → dn ≠ ⟨dependencyId, nonce⟩) →
    Gone (nonceStore.put dependencyId nonce expiresAt now s).2 dn

def InMemoryNonceStore.Gone (entries : NonceEntries) (dn : DependencyNonce) : Prop :=
  ∃ entry, entries dn.dependencyId = some entry ∧ (entry.used = true ∨ entry.nonce ≠ dn.nonce)

theorem inMemoryNonceStore_spendsOnce :
    SpendsOnce inMemoryNonceStore false InMemoryNonceStore.Gone where
  refused := by
    rintro s dependencyId nonce checkedAt now ⟨entry, hentry, hgone⟩
    change s dependencyId = some entry at hentry
    change entry.used = true ∨ entry.nonce ≠ nonce at hgone
    have hrefused : (entry.used || entry.nonce != nonce || entry.expiresAtMs ≤ checkedAt) =
        true := by
      rcases hgone with h | h <;> simp [h]
    simp only [inMemoryNonceStore, InMemoryNonceStore.consume, hentry, hrefused, if_true]
    simp
  spent := by
    intro s dependencyId nonce checkedAt now h
    simp only [inMemoryNonceStore, InMemoryNonceStore.consume] at h ⊢
    cases hentry : s dependencyId with
    | none => simp [hentry] at h
    | some entry =>
        simp only [hentry] at h ⊢
        split_ifs at h ⊢ with hrefused
        · cases h
        · exact ⟨{ entry with used := true }, by simp, Or.inl rfl⟩
  consume := by
    rintro s dn dependencyId nonce checkedAt now ⟨entry, hentry, hgone⟩
    simp only [inMemoryNonceStore, InMemoryNonceStore.consume]
    cases hother : s dependencyId with
    | none => exact ⟨entry, hentry, hgone⟩
    | some other =>
        dsimp only
        split_ifs
        · exact ⟨entry, hentry, hgone⟩
        · by_cases hkey : dn.dependencyId = dependencyId
          · exact ⟨{ other with used := true }, by simp [hkey], Or.inl rfl⟩
          · exact ⟨entry, by simpa [Function.update_of_ne hkey] using hentry, hgone⟩
  put := by
    rintro s dn dependencyId nonce expiresAt now ⟨entry, hentry, hgone⟩ _
    simp only [inMemoryNonceStore, InMemoryNonceStore.put]
    cases expiresAt with
    | none => exact ⟨entry, hentry, hgone⟩
    | some expiresAtMs =>
        dsimp only
        split_ifs with hempty htaken
        · exact ⟨entry, hentry, hgone⟩
        · exact ⟨entry, hentry, hgone⟩
        · have hkey : dn.dependencyId ≠ dependencyId := by
            rintro rfl
            simp [hentry] at htaken
          exact ⟨entry, by simpa [Function.update_of_ne hkey] using hentry, hgone⟩

def NonceDeleted (place : JsString → JsString) (cells : Cells JsString JsString)
    (dn : DependencyNonce) : Prop :=
  ∀ cell, cells (place dn.dependencyId) = some cell → cell.value ≠ dn.nonce

namespace NonceDeleted

variable {place : JsString → JsString} {cells : Cells JsString JsString}
  {dn : DependencyNonce}

theorem erase (h : NonceDeleted place cells dn) (key : JsString) :
    NonceDeleted place (cells.erase key) dn := by
  intro cell hcell
  by_cases hkey : place dn.dependencyId = key
  · simp [Cells.erase, hkey] at hcell
  · exact h cell (by simpa [Cells.erase, Function.update_of_ne hkey] using hcell)

theorem of_erase (dependencyId nonce : JsString) :
    NonceDeleted place (cells.erase (place dependencyId)) ⟨dependencyId, nonce⟩ := by
  intro cell hcell
  simp [Cells.erase] at hcell

theorem put (hplace : Function.Injective place) (h : NonceDeleted place cells dn)
    {dependencyId nonce : JsString} (hne : dn ≠ ⟨dependencyId, nonce⟩) (e : Instant) :
    NonceDeleted place (cells.put (place dependencyId) ⟨nonce, e⟩) dn := by
  intro cell hcell hvalue
  by_cases hkey : dn.dependencyId = dependencyId
  · rw [hkey] at hcell
    simp only [Cells.put, Function.update_self, Option.some.injEq] at hcell
    subst hcell
    exact hne (by cases dn; simp_all)
  · rw [Cells.put, Function.update_of_ne (hplace.ne hkey)] at hcell
    exact h cell hcell hvalue

end NonceDeleted

theorem redisNonces_spendsOnce (keyPrefix : JsString) :
    SpendsOnce (RedisX424Store.nonces keyPrefix) true
      (NonceDeleted (redisKey keyPrefix (js "nonce"))) where
  refused := by
    intro s dependencyId nonce checkedAt now hgone
    have hget : s.get now (redisKey keyPrefix (js "nonce") dependencyId) ≠ some nonce := by
      intro hget
      obtain ⟨cell, hlive, hvalue⟩ := Option.map_eq_some_iff.mp hget
      exact hgone cell (Cells.live_eq_some.mp hlive).1 hvalue
    simp only [RedisX424Store.nonces, RedisX424Store.consumeNonce, consumeNonceScript,
      if_neg hget]
    split_ifs <;> simp
  spent := by
    intro s dependencyId nonce checkedAt now h
    simp only [RedisX424Store.nonces, RedisX424Store.consumeNonce, consumeNonceScript] at h ⊢
    split_ifs at h ⊢ with hempty hget
    · exact NonceDeleted.of_erase dependencyId nonce
    · simp at h
  consume := by
    intro s dn dependencyId nonce checkedAt now hgone
    simp only [RedisX424Store.nonces, RedisX424Store.consumeNonce, consumeNonceScript]
    split_ifs
    · exact hgone
    · exact hgone.erase _
    · exact hgone
  put := by
    intro s dn dependencyId nonce expiresAt now hgone hne
    simp only [RedisX424Store.nonces, RedisX424Store.putNonce, RedisX424Store.setOnce]
    split_ifs
    · exact hgone
    · exact hgone
    · cases futureExpiry expiresAt now with
      | none => exact hgone
      | some expiresAtMs =>
          simp only [RedisTable.setNx]
          split_ifs
          · exact hgone
          · exact hgone.put (redisKey_injective keyPrefix _) (hne rfl) expiresAtMs

theorem postgresNonces_spendsOnce :
    SpendsOnce PostgresX424Store.nonces true (NonceDeleted id) where
  refused := by
    intro s dependencyId nonce checkedAt now hgone
    simp only [PostgresX424Store.nonces, PostgresX424Store.consumeNonce]
    cases hrow : s dependencyId with
    | none => simp
    | some row =>
        have hne : row.value ≠ nonce := hgone row hrow
        simp [hne]
  spent := by
    intro s dependencyId nonce checkedAt now h
    simp only [PostgresX424Store.nonces, PostgresX424Store.consumeNonce] at h ⊢
    cases hrow : s dependencyId with
    | none => simp [hrow] at h
    | some row =>
        simp only [hrow] at h ⊢
        split_ifs at h ⊢
        · exact NonceDeleted.of_erase dependencyId nonce
        · cases h
  consume := by
    intro s dn dependencyId nonce checkedAt now hgone
    simp only [PostgresX424Store.nonces, PostgresX424Store.consumeNonce]
    cases s dependencyId with
    | none => exact hgone
    | some row =>
        dsimp only
        split_ifs
        · exact hgone.erase dependencyId
        · exact hgone
  put := by
    intro s dn dependencyId nonce expiresAt now hgone hne
    simp only [PostgresX424Store.nonces, PostgresX424Store.putNonce]
    split_ifs
    · exact hgone
    · cases expiresAt with
      | none => exact hgone
      | some expiresAtMs =>
          simp only [insertOnConflictDoNothing]
          split_ifs
          · exact hgone
          · exact hgone.put Function.injective_id (hne rfl) expiresAtMs

/-! ## Runs -/

/-- The invariant: what was spent stays refused, and every call in flight or
returned has spent a nonce of its own. -/
structure NonceRun.Accounted {σ : Type} (Gone : σ → DependencyNonce → Prop)
    (run : NonceRun σ) : Prop where
  gone : ∀ dn ∈ run.spent, Gone run.store dn
  once : run.spent.Nodup
  backed : ∀ dn, run.pending.count dn + run.returned.count dn ≤ run.spent.count dn

namespace NonceRun.Accounted

variable {σ : Type} {service : X424Service} {nonceStore : NonceStore σ} {revivable : Bool}
  {Gone : σ → DependencyNonce → Prop} {run : NonceRun σ}

theorem initial (clock : Instant) : (NonceRun.initial nonceStore clock).Accounted Gone where
  gone _ h := by cases h
  once := List.nodup_nil
  backed _ := Nat.le_refl 0

theorem singleUse (h : run.Accounted Gone) : run.SingleUse := by
  refine ⟨h.once, List.nodup_iff_count_le_one.mpr fun dn => ?_⟩
  have hspent := List.nodup_iff_count_le_one.mp h.once dn
  have := h.backed dn
  omega

theorem store (h : run.Accounted Gone) {store : σ}
    (hgone : ∀ dn ∈ run.spent, Gone run.store dn → Gone store dn) :
    { run with store }.Accounted Gone where
  gone dn hdn := hgone dn hdn (h.gone dn hdn)
  once := h.once
  backed := h.backed

theorem notMem_of_consumed (hstore : SpendsOnce nonceStore revivable Gone)
    (h : run.Accounted Gone) {dependencyId nonce : JsString} {checkedAt now : Instant}
    (htrue : (nonceStore.consume dependencyId nonce checkedAt now run.store).1 = .ok true) :
    (⟨dependencyId, nonce⟩ : DependencyNonce) ∉ run.spent := by
  intro hmem
  exact hstore.refused (h.gone _ hmem) htrue

theorem spend (hstore : SpendsOnce nonceStore revivable Gone) (h : run.Accounted Gone)
    {dependencyId nonce : JsString} {checkedAt now : Instant} {store : σ}
    (hreply : nonceStore.consume dependencyId nonce checkedAt now run.store =
      (.ok true, store)) :
    { run with store, spent := ⟨dependencyId, nonce⟩ :: run.spent }.Accounted Gone := by
  have htrue : (nonceStore.consume dependencyId nonce checkedAt now run.store).1 = .ok true := by
    rw [hreply]
  have hspent := hstore.spent htrue
  have hkept : ∀ dn, Gone run.store dn → Gone store dn := fun dn hgone => by
    simpa [hreply] using hstore.consume dependencyId nonce checkedAt now hgone
  rw [hreply] at hspent
  refine ⟨?_, List.nodup_cons.mpr ⟨h.notMem_of_consumed hstore htrue, h.once⟩, fun dn => ?_⟩
  · rintro dn hdn
    rcases List.mem_cons.mp hdn with rfl | hdn
    · exact hspent
    · exact hkept dn (h.gone dn hdn)
  · exact Nat.le_trans (h.backed dn) (List.Sublist.count_le dn (List.sublist_cons_self _ _))

theorem step (hstore : SpendsOnce nonceStore revivable Gone)
    {event : NonceEvent} {next : NonceRun σ} (h : run.Accounted Gone)
    (hguard : revivable = true → NotPutAgain run event)
    (hstep : nonceStep service nonceStore run event = some next) : next.Accounted Gone := by
  cases event with
  | tick time =>
      simp only [nonceStep, Option.ite_none_right_eq_some, Option.some.injEq] at hstep
      obtain ⟨_, rfl⟩ := hstep
      exact ⟨h.gone, h.once, h.backed⟩
  | put dependencyId nonce expiresAt =>
      simp only [nonceStep, Option.some.injEq] at hstep
      subst hstep
      refine h.store fun dn hdn hgone => hstore.put _ _ _ _ hgone ?_
      rintro hrevivable rfl
      exact hguard hrevivable hdn
  | consume dependencyId nonce checkedAt =>
      simp only [nonceStep, Option.ite_none_right_eq_some] at hstep
      obtain ⟨_, hstep⟩ := hstep
      have hkept : ∀ dn, Gone run.store dn → Gone
          (nonceStore.consume dependencyId nonce checkedAt run.clock run.store).2 dn :=
        fun dn => hstore.consume dependencyId nonce checkedAt run.clock
      split at hstep
      · next store htrue =>
          cases hstep
          exact h.spend hstore htrue
      · next store _ hreply =>
          cases hstep
          exact h.store fun dn _ hgone => by simpa [hreply] using hkept dn hgone
  | register requirement checkedAt validate =>
      simp only [nonceStep, Option.ite_none_right_eq_some, Option.some.injEq] at hstep
      obtain ⟨_, rfl⟩ := hstep
      refine h.store fun dn hdn hgone => ?_
      rcases service.register_store nonceStore requirement checkedAt run.clock validate
        run.store with heq | heq
      · rwa [heq]
      · rw [heq]
        refine hstore.put _ _ _ _ hgone ?_
        rintro hrevivable rfl
        exact hguard hrevivable hdn
  | satisfy requirement proof checkedAt =>
      simp only [nonceStep, Option.ite_none_right_eq_some] at hstep
      obtain ⟨_, hstep⟩ := hstep
      rcases service.beginSatisfy_cases nonceStore requirement proof checkedAt run.clock
        run.store with ⟨error, heq⟩ | ⟨error, heq⟩ | ⟨admitted, _, htrue, heq⟩
      · rw [heq] at hstep
        cases hstep
        exact h
      · rw [heq] at hstep
        cases hstep
        exact h.store fun dn _ hgone => hstore.consume _ _ _ _ hgone
      · rw [heq] at hstep
        cases hstep
        have hspent := h.spend hstore (Prod.ext htrue rfl)
        refine ⟨hspent.gone, hspent.once, fun dn => ?_⟩
        have := h.backed dn
        simp only [List.count_cons, HumanRequirement.dependencyNonce]
        omega
  | settle dn returns =>
      simp only [nonceStep, Option.ite_none_right_eq_some, Option.some.injEq] at hstep
      obtain ⟨hpending, rfl⟩ := hstep
      refine ⟨h.gone, h.once, fun other => ?_⟩
      have hbacked := h.backed other
      have hcount : (run.pending.erase dn).count other = _ := List.count_erase
      have hpositive : 0 < run.pending.count dn := List.count_pos_iff.mpr hpending
      by_cases heq : other = dn
      · subst heq
        cases returns <;> simp at hcount ⊢ <;> omega
      · have hne : ¬ dn = other := fun h => heq h.symm
        cases returns <;> simp [hne] at hcount ⊢ <;> omega

theorem satisfiesOnce (hstore : SpendsOnce nonceStore revivable Gone)
    (guard : NonceRun σ → NonceEvent → Prop)
    (hguard : revivable = true → ∀ run event, guard run event → NotPutAgain run event) :
    SatisfiesOnce service nonceStore guard := by
  intro clock run hreaches
  have hrun : run.Accounted Gone := by
    refine hreaches.invariant (fun run event next h hevent hstep => ?_) (initial clock)
    exact h.step hstore (fun hrevivable => hguard hrevivable run event hevent) hstep
  exact hrun.singleUse

end NonceRun.Accounted

/-- Every nonce of every dependency is used at most once: in the in-memory store
whatever happens, in the shared stores along the runs that meet the guard. -/
structure NoncesSingleUse (service : X424Service) (keyPrefix : JsString)
    (redisGuard : NonceRun RedisDb → NonceEvent → Prop)
    (postgresGuard : NonceRun (Cells JsString JsString) → NonceEvent → Prop) : Prop where
  inMemory : SatisfiesOnce service inMemoryNonceStore fun _ _ => True
  redis : SatisfiesOnce service (RedisX424Store.nonces keyPrefix) redisGuard
  postgres : SatisfiesOnce service PostgresX424Store.nonces postgresGuard

/-! ## A dependency registered twice -/

namespace RegisteredTwice

def descriptor : HumanMethodDescriptor where
  providerId := js "world"
  methodId := js "proof-of-human"
  version := js "1"
  status := .enabled
  claim := js "one human"
  nonClaims := [js "identity"]
  assuranceLevels := []
  nativeScopeKinds := [.action]
  verificationModes := [.backend]

def service : X424Service where
  catalog key := if key = js "world:proof-of-human" then some descriptor else none
  adapters := [js "world"]

def binding : HumanBinding := ⟨.session, js "s"⟩

def requirement : HumanRequirement where
  x424Version := js "0.1"
  dependencyId := js "d"
  purpose := js "p"
  resource := ⟨js "POST", js "https://a.example/x", js "https://a.example",
    js "sha256:47DEQpj8HBSa-_TImW-5JCeuQeRkm5NMpJWZG3hSuFU"⟩
  nonce := js "n"
  binding := binding
  createdAt := some 0
  expiresAt := some 1000
  accepts := [⟨js "world", js "proof-of-human", js "1", none, [.action], none, none⟩]
  providerRequestKeys := []

def proof : HumanProofSubmission :=
  ⟨js "0.1", js "d", js "world", js "proof-of-human", binding⟩

def round : List NonceEvent :=
  [.register requirement 0 fun _ => .ok (), .satisfy requirement proof 0,
    .settle requirement.dependencyNonce true]

end RegisteredTwice

/-- In Redis a dependency registered again after it was satisfied is satisfied
a second time. -/
theorem dependency_satisfied_twice :
    ∃ (service : X424Service) (keyPrefix : JsString),
      ¬ NoncesSingleUse service keyPrefix (fun _ _ => True) fun _ _ => True := by
  refine ⟨RegisteredTwice.service, js "x424", fun h => ?_⟩
  let M := nonceMachine RegisteredTwice.service (RedisX424Store.nonces (js "x424"))
  let start := NonceRun.initial (RedisX424Store.nonces (js "x424")) 0
  let events := RegisteredTwice.round ++ RegisteredTwice.round
  have hreturned : (M.run start events).map NonceRun.returned =
      some [⟨js "d", js "n"⟩, ⟨js "d", js "n"⟩] := by decide +kernel
  obtain ⟨run, hrun, hlist⟩ := Option.map_eq_some_iff.mp hreturned
  have hsingle := (h.redis 0 run ⟨events, M.along_true start events, hrun⟩).2
  rw [hlist] at hsingle
  exact absurd hsingle (by decide)

theorem dependency_satisfied_once (service : X424Service) (keyPrefix : JsString) :
    NoncesSingleUse service keyPrefix NotPutAgain NotPutAgain where
  inMemory := NonceRun.Accounted.satisfiesOnce inMemoryNonceStore_spendsOnce _
    (fun h => by cases h)
  redis := NonceRun.Accounted.satisfiesOnce (redisNonces_spendsOnce keyPrefix) _
    fun _ _ _ h => h
  postgres := NonceRun.Accounted.satisfiesOnce postgresNonces_spendsOnce _
    fun _ _ _ h => h

end X424
