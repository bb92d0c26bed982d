import X424.Handoff.Invariant

/-!
# Release of a dependency

A new handoff of a dependency can be created when no handoff of it that has
not ended is stored.  A handoff that has expired is stored on until a read by
its token holder, or in Redis the time to live of its key, makes an end of it.
-/

namespace X424

open Foundation

section Steps

variable {ι σ : Type} (store : HandoffStore σ)

def AllExpired (s : HandoffState ι σ) (dependencyId : JsString) : Prop :=
  ∀ handoffId record, s.stored store handoffId = some record →
    record.dependencyId = dependencyId → record.status.terminal = false →
    record.expiresAt ≤ s.now

/-- No handoff of the dependency that has not ended is stored any more. -/
def NoneOpen (s : HandoffState ι σ) (dependencyId : JsString) : Prop :=
  ∀ handoffId record, s.stored store handoffId = some record →
    record.dependencyId = dependencyId → record.status.terminal = true

/-- A record that `create` can be asked to store: its id is new, it has not
expired, and it has a canonical JSON text. -/
structure Creatable (s : HandoffState ι σ) (record : StoredHumanHandoff) : Prop where
  fresh : record.handoffId ∉ s.issued
  unexpired : s.now < record.expiresAt
  finite : record.pollAfterMs.isSome
  nonterminal : record.status.terminal = false

/-- In every reachable state a handoff of a dependency whose handoffs are over can
be created if and only if the condition holds. -/
def ReleasedIff (ι : Type) [DecidableEq ι] {σ : Type} (service : HumanHandoffService)
    (store : HandoffStore σ) (condition : HandoffState ι σ → JsString → Prop) : Prop :=
  ∀ {now events} {s : HandoffState ι σ} {record : StoredHumanHandoff},
    (handoffMachine service store).run (.initial store now) events = some s →
    Creatable s record → AllExpired store s record.dependencyId →
    ((store.create record s.now s.now s.store).1 = .ok true ↔ condition s record.dependencyId)

variable {service : HumanHandoffService} {store} {strict : Bool} {valid : Instant → σ → Prop}
  {s : HandoffState ι σ} {record : StoredHumanHandoff}

theorem noneOpen_iff_unmarked (hstore : KeepsHandoffs store strict valid)
    (h : HandoffInvariant service store strict valid s) {dependencyId : JsString} :
    NoneOpen store s dependencyId ↔ store.marker s.now s.store dependencyId = none := by
  constructor
  · intro hnone
    cases hmarker : store.marker s.now s.store dependencyId with
    | none => rfl
    | some handoffId =>
        obtain ⟨found, hstored, hdependency, hopen⟩ := (hstore.marker_iff h.valid).mp hmarker
        exact nomatch hopen.symm.trans (hnone handoffId found hstored hdependency)
  · intro hunmarked handoffId found hstored hdependency
    cases hterminal : found.status.terminal with
    | true => rfl
    | false =>
        have hmarker := (hstore.marker_iff h.valid).mpr ⟨found, hstored, hdependency, hterminal⟩
        exact nomatch hunmarked.symm.trans hmarker

theorem HandoffInvariant.create_iff (hstore : KeepsHandoffs store strict valid)
    (h : HandoffInvariant service store strict valid s) (hcreatable : Creatable s record) :
    (store.create record s.now s.now s.store).1 = .ok true ↔
      NoneOpen store s record.dependencyId := by
  rw [noneOpen_iff_unmarked hstore h]
  constructor
  · intro hcreated
    obtain ⟨_, hwrites⟩ := hstore.create s.now h.valid hcreatable.nonterminal
    rcases hwrites with ⟨_, ⟨_, hunmarked⟩, _⟩ | ⟨hfailed, _⟩
    · exact hunmarked
    · exact absurd hcreated hfailed
  · intro hunmarked
    refine hstore.create_ok hcreatable.unexpired hcreatable.finite ?_ hunmarked
    cases hstored : store.stored s.now s.store record.handoffId with
    | none => rfl
    | some found =>
        obtain ⟨hlogged, hid⟩ := h.versions.logged hstored
        exact absurd (hid ▸ h.issued found hlogged) hcreatable.fresh

variable [DecidableEq ι]

theorem releasedIff_of_keeps (hstore : KeepsHandoffs store strict valid) :
    ReleasedIff ι service store (NoneOpen store) := by
  intro now events s record hrun hcreatable _
  exact ((HandoffInvariant.initial hstore now).run hstore hrun).1.create_iff hstore hcreatable

end Steps

/-- When the handoffs of a dependency are over, a new one can be created under
the condition, in each of the three stores. -/
structure DependenciesReleased (ι : Type) [DecidableEq ι] (service : HumanHandoffService)
    (condition : ∀ {σ}, HandoffStore σ → HandoffState ι σ → JsString → Prop) : Prop where
  inMemory : ReleasedIff ι service inMemoryHandoffStore (condition inMemoryHandoffStore)
  redis : ∀ keyPrefix,
    ReleasedIff ι service (redisHandoffStore keyPrefix) (condition (redisHandoffStore keyPrefix))
  postgres : ReleasedIff ι service postgresHandoffStore (condition postgresHandoffStore)

/-! ## A dependency that stays taken -/

namespace Orphan

def service : HumanHandoffService where
  adapters providerId := if providerId = js "world" then some [js "m"] else none
  unprotect _ := .ok none

def requirement : HumanRequirement where
  x424Version := js "0.1"
  dependencyId := js "d"
  purpose := js "p"
  resource := ⟨js "POST", js "https://a.example/x", js "https://a.example", js "sha256:"⟩
  nonce := js "n"
  binding := ⟨.session, js "s"⟩
  createdAt := some 0
  expiresAt := some 600000
  accepts := [⟨js "world", js "m", js "1", none, [.action], none, none⟩]
  providerRequestKeys := []

def started : StartedProviderHandoff where
  presentation := ⟨js "https://p.example", none⟩
  protectedState := js "x"
  expiresAt := some 60000
  pollAfterMs := none

def events : List (HandoffEvent Bool) :=
  [.start (some requirement) ⟨js "d", js "n", js "world", js "m"⟩ started (js "h") (js "a") 0 0,
    .tick 60000]

def record : StoredHumanHandoff :=
  startRecord requirement ⟨js "d", js "n", js "world", js "m"⟩ started (js "h2") (js "a2") 120000

end Orphan

theorem dependency_taken_after_expiry :
    ∃ service : HumanHandoffService, ¬ DependenciesReleased Bool service fun _ _ _ => True := by
  refine ⟨Orphan.service, fun h => ?_⟩
  let M := handoffMachine (ι := Bool) Orphan.service inMemoryHandoffStore
  let start := HandoffState.initial (ι := Bool) inMemoryHandoffStore 0
  let observed (s : HandoffState Bool InMemoryHandoffs) :=
    (s.now, s.issued, (s.stored inMemoryHandoffStore (js "h")).map StoredHumanHandoff.expiresAt,
      (inMemoryHandoffStore.create Orphan.record s.now s.now s.store).1)
  have hobserved : (M.run start Orphan.events).map observed =
      some (60000, [js "h"], some 60000, .ok false) := by decide +kernel
  obtain ⟨s, hrun, hs⟩ := Option.map_eq_some_iff.mp hobserved
  simp only [observed, Prod.mk.injEq] at hs
  obtain ⟨hnow, hissued, hstored, hcreate⟩ := hs
  have hkept := (HandoffInvariant.initial inMemory_keepsHandoffs 0).run inMemory_keepsHandoffs hrun
  have hcreatable : Creatable s Orphan.record := by
    refine ⟨?_, ?_, by decide, by decide⟩
    · rw [hissued]
      decide +kernel
    · rw [hnow]
      decide
  have hexpired : AllExpired inMemoryHandoffStore s Orphan.record.dependencyId := by
    intro handoffId record hrecord _ _
    obtain ⟨hlogged, hid⟩ := hkept.1.versions.logged hrecord
    have hmem := hkept.1.issued record hlogged
    rw [hissued, List.mem_singleton] at hmem
    have hsame : handoffId = js "h" := hid.symm.trans hmem
    subst hsame
    rw [hrecord, Option.map_some, Option.some.injEq] at hstored
    rw [hstored, hnow]
  have hreleased := (h.inMemory hrun hcreatable hexpired).mpr trivial
  exact nomatch hcreate.symm.trans hreleased

theorem dependencies_released (ι : Type) [DecidableEq ι] (service : HumanHandoffService) :
    DependenciesReleased ι service NoneOpen where
  inMemory := releasedIff_of_keeps inMemory_keepsHandoffs
  redis keyPrefix := releasedIff_of_keeps (redis_keepsHandoffs keyPrefix)
  postgres := releasedIff_of_keeps postgres_keepsHandoffs

end X424
