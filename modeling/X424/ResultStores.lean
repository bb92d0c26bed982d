import X424.Foundation.Ledger
import X424.Postgres
import X424.Redis

/-!
# Replay and acceptance safety of the result stores

Each of the six result stores answers as a write-once ledger does, although one
prunes a map, one lets Redis drop keys and one keeps every row it ever
inserted.  The laws of ledgers then hold of their histories.

The calls considered are those the router makes: one `expiresAt` for each
result id, before which the calls come; a scoped id always with the same legacy
id; and no plain call on a legacy id after a call on a scoped id that names it.
-/

namespace X424

open Foundation

/-- A call of `consume` or `accept`, or of its legacy-aware form. -/
structure ResultCall (β : Type) where
  resultId : JsString
  /-- `none` in the plain form. -/
  legacyResultId : Option JsString
  operation : β
  expiresAt : IsoTimestamp
  now : Instant
  deriving DecidableEq

namespace ResultCall

variable {β : Type}

def claim (c : ResultCall β) : Claim JsString β :=
  ⟨c.resultId, c.legacyResultId, c.operation, c.now⟩

def input (c : ResultCall AcceptedOperation) : ResultAcceptanceInput :=
  ⟨c.resultId, c.operation.operationId, c.operation.requestDigest, c.expiresAt⟩

@[simp] theorem input_resultId (c : ResultCall AcceptedOperation) :
    c.input.resultId = c.resultId := rfl

@[simp] theorem input_operation (c : ResultCall AcceptedOperation) :
    c.input.operation = c.operation := rfl

@[simp] theorem input_expiresAt (c : ResultCall AcceptedOperation) :
    c.input.expiresAt = c.expiresAt := rfl

structure WellUsed (expiry : JsString → Instant) (legacyOf : JsString → Option JsString)
    (calls : List (ResultCall β)) : Prop where
  one_expiry : ∀ c ∈ calls, c.expiresAt = some (expiry c.resultId)
  in_time : ∀ c ∈ calls, c.now < expiry c.resultId
  one_legacy : ∀ c ∈ calls, c.legacyResultId = legacyOf c.resultId
  legacy_plain : ∀ id legacy, legacyOf id = some legacy → legacyOf legacy = none
  clock : calls.Pairwise fun earlier later => earlier.now ≤ later.now
  legacy_first : calls.Pairwise fun earlier later =>
    earlier.legacyResultId ≠ some later.resultId

namespace WellUsed

variable {expiry : JsString → Instant} {legacyOf : JsString → Option JsString}
  {c : ResultCall β} {calls : List (ResultCall β)}

theorem tail (h : WellUsed expiry legacyOf (c :: calls)) :
    WellUsed expiry legacyOf calls where
  one_expiry d hd := h.one_expiry d (List.mem_cons_of_mem c hd)
  in_time d hd := h.in_time d (List.mem_cons_of_mem c hd)
  one_legacy d hd := h.one_legacy d (List.mem_cons_of_mem c hd)
  legacy_plain := h.legacy_plain
  clock := (List.pairwise_cons.mp h.clock).2
  legacy_first := (List.pairwise_cons.mp h.legacy_first).2

theorem claims (h : WellUsed expiry legacyOf calls) :
    Ledger.WellUsed expiry legacyOf (calls.map claim) where
  alias_eq := List.forall_mem_map.mpr h.one_legacy
  alias_plain := h.legacy_plain
  in_time := List.forall_mem_map.mpr h.in_time
  ordered := List.pairwise_map.mpr (h.clock.and h.legacy_first)

end WellUsed

end ResultCall

def ResultReplayStore.call {σ : Type} (store : ResultReplayStore σ) (c : ResultCall Unit) :
    σ → Except JsError Bool × σ :=
  match c.legacyResultId with
  | none => store.consume c.resultId c.expiresAt c.now c.now
  | some legacyResultId =>
      store.consumeWithLegacy c.resultId legacyResultId c.expiresAt c.now

def ResultAcceptanceStore.call {σ : Type} (store : ResultAcceptanceStore σ)
    (c : ResultCall AcceptedOperation) : σ → Except JsError ResultAcceptanceStatus × σ :=
  match c.legacyResultId with
  | none => store.accept c.input c.now c.now
  | some legacyResultId => store.acceptWithLegacy c.input legacyResultId c.now

/-! ## Refinement of a ledger -/

/--
The object holds a ledger at every time and answers calls as the ledger does.
The last hypothesis of `step` excludes a state that the calls considered never
reach, in which a scoped id and its legacy id are both bound.
-/
structure ActsAsLedger {σ α β : Type} [DecidableEq β] (empty : σ)
    (call : ResultCall β → σ → α × σ) (agrees : α → Verdict → Prop)
    (admits : Claim JsString β → Bool)
    (holds : (JsString → Instant) → Instant → σ → Ledger JsString β → Prop) : Prop where
  empty : ∀ expiry now, holds expiry now empty Ledger.empty
  later : ∀ {expiry now time s ledger}, holds expiry now s ledger → now ≤ time →
    holds expiry time s ledger
  step : ∀ {expiry s ledger c}, holds expiry c.now s ledger →
    c.expiresAt = some (expiry c.resultId) → c.now < expiry c.resultId →
    (∀ legacy, c.legacyResultId = some legacy → ledger c.resultId ≠ none →
      c.now < expiry legacy → ledger legacy = none) →
    agrees (call c s).1 (ledger.answer admits expiry c.claim).1 ∧
      holds expiry c.now (call c s).2 (ledger.answer admits expiry c.claim).2

namespace ActsAsLedger

variable {σ α β : Type} [DecidableEq β] {empty : σ} {call : ResultCall β → σ → α × σ}
  {agrees : α → Verdict → Prop} {admits : Claim JsString β → Bool}
  {holds : (JsString → Instant) → Instant → σ → Ledger JsString β → Prop}
  {expiry : JsString → Instant} {legacyOf : JsString → Option JsString}
  {calls : List (ResultCall β)}

theorem verdicts (h : ActsAsLedger empty call agrees admits holds)
    (hused : ResultCall.WellUsed expiry legacyOf calls) :
    List.Forall₂ (fun e e' => e'.1 = e.1.claim ∧ agrees e.2 e'.2)
      (history call empty calls)
      (Ledger.verdicts admits expiry Ledger.empty (calls.map ResultCall.claim)) := by
  refine history_simulation ResultCall.claim agrees
    (fun calls s ledger =>
      ResultCall.WellUsed expiry legacyOf calls ∧
      Ledger.Settled expiry legacyOf ledger (calls.map ResultCall.claim) ∧
      ∀ c ∈ calls, holds expiry c.now s ledger)
    ?_ ⟨hused, Ledger.Settled.empty, fun c _ => h.empty expiry c.now⟩
  rintro c calls s ledger ⟨hused, hsettled, hholds⟩
  have hc : c ∈ c :: calls := List.mem_cons_self
  obtain ⟨hagrees, hnext⟩ := h.step (hholds c hc) (hused.one_expiry c hc)
    (hused.in_time c hc) fun legacy hlegacy hbound htime =>
      hsettled.unbound c.resultId legacy ((hused.one_legacy c hc).symm.trans hlegacy) hbound
        c.claim (List.mem_map_of_mem hc) htime
  refine ⟨hagrees, hused.tail, hsettled.answer admits hused.claims, fun d hd => ?_⟩
  exact h.later hnext ((List.pairwise_cons.mp hused.clock).1 d hd)

theorem pairwise (h : ActsAsLedger empty call agrees admits holds)
    (hused : ResultCall.WellUsed expiry legacyOf calls)
    {P : Claim JsString β × Verdict → Claim JsString β × Verdict → Prop}
    {Q : ResultCall β × α → ResultCall β × α → Prop}
    (hP : (Ledger.verdicts admits expiry Ledger.empty
      (calls.map ResultCall.claim)).Pairwise P)
    (hPQ : ∀ c a c' a' v v', agrees a v → agrees a' v' →
      P (c.claim, v) (c'.claim, v') → Q (c, a) (c', a')) :
    (history call empty calls).Pairwise Q := by
  refine pairwise_of_forall₂ ?_ (h.verdicts hused) hP
  rintro ⟨c, a⟩ ⟨c', a'⟩ ⟨d, v⟩ ⟨d', v'⟩ ⟨rfl, hv⟩ ⟨rfl, hv'⟩ hlaw
  exact hPQ c a c' a' v v' hv hv' hlaw

end ActsAsLedger

/-! ## Stores of cells -/

section Cells

variable {β ν : Type} [DecidableEq β] {encode : β → ν} {place : JsString → JsString}
  {expiry : JsString → Instant} {c : ResultCall β} {cells kept : Cells JsString ν}
  {ledger : Ledger JsString β}

def ResultCall.found (place : JsString → JsString) (c : ResultCall β)
    (cells : Cells JsString ν) : Option ν :=
  ((c.legacyResultId.bind fun id => cells.live c.now (place id)).or
    (cells.live c.now (place c.resultId))).map Cell.value

def ResultCall.record (encode : β → ν) (place : JsString → JsString) (c : ResultCall β)
    (e : Instant) (found : Option ν) (cells : Cells JsString ν) : Cells JsString ν :=
  match found with
  | some _ => cells
  | none => cells.put (place c.resultId) ⟨encode c.operation, e⟩

omit [DecidableEq β] in
private theorem found_eq_deciding
    (h : Ledger.Represents place encode expiry c.now cells ledger)
    (htime : c.now < expiry c.resultId) :
    c.found place cells = (ledger.deciding expiry c.claim).map encode :=
  Ledger.Represents.lookup c.claim h htime

private theorem record_represents (hplace : Function.Injective place)
    (h : Ledger.Represents place encode expiry c.now cells ledger)
    (hkept : Ledger.Represents place encode expiry c.now kept ledger)
    (htime : c.now < expiry c.resultId) :
    Ledger.Represents place encode expiry c.now
      (c.record encode place (expiry c.resultId) (c.found place cells) kept)
      (ledger.claim expiry c.claim).2 := by
  unfold ResultCall.record Ledger.claim
  rw [found_eq_deciding h htime]
  cases ledger.deciding expiry c.claim with
  | none => exact hkept.put hplace c.resultId c.operation
  | some binding => exact hkept

end Cells

/-! ## Acceptance stores -/

def statusOfVerdict : Verdict → ResultAcceptanceStatus
  | .fresh => .new
  | .same => .sameOperation
  | .other => .replay

def acceptanceAdmits (claim : Claim JsString AcceptedOperation) : Bool :=
  ResultAcceptanceInput.wellFormed
      ⟨claim.key, claim.binding.operationId, claim.binding.requestDigest, none⟩ &&
    claim.older.all wellFormedLegacyId

theorem statusOfVerdict_bound (p : Prop) [Decidable p] :
    statusOfVerdict (if p then .same else .other) =
      if p then .sameOperation else .replay := by
  split_ifs <;> rfl

section Acceptance

variable {c : ResultCall AcceptedOperation} {e : Instant}

private theorem acceptanceAdmits_claim :
    acceptanceAdmits c.claim =
      (c.input.wellFormed && c.legacyResultId.all wellFormedLegacyId) := rfl

/-- A well-formed acceptance at a store that keeps encoded operations in cells
and has `found` one of them. -/
def acceptFound {ν : Type} [DecidableEq ν] (encode : AcceptedOperation → ν)
    (place : JsString → JsString) (c : ResultCall AcceptedOperation) (e : Instant)
    (found : Option ν) (cells : Cells JsString ν) :
    Except JsError ResultAcceptanceStatus × Cells JsString ν :=
  (.ok (match found with
    | some current => if current = encode c.operation then .sameOperation else .replay
    | none => .new),
   c.record encode place e found cells)

private theorem acceptFound_agrees {ν : Type} [DecidableEq ν]
    {encode : AcceptedOperation → ν} {place : JsString → JsString}
    {expiry : JsString → Instant} {cells kept : Cells JsString ν}
    {ledger : Ledger JsString AcceptedOperation}
    (hencode : Function.Injective encode) (hplace : Function.Injective place)
    (h : Ledger.Represents place encode expiry c.now cells ledger)
    (hkept : Ledger.Represents place encode expiry c.now kept ledger)
    (htime : c.now < expiry c.resultId) :
    (acceptFound encode place c (expiry c.resultId) (c.found place cells) kept).1 =
        .ok (statusOfVerdict (ledger.claim expiry c.claim).1) ∧
      Ledger.Represents place encode expiry c.now
        (acceptFound encode place c (expiry c.resultId) (c.found place cells) kept).2
        (ledger.claim expiry c.claim).2 := by
  refine ⟨?_, record_represents hplace h hkept htime⟩
  unfold acceptFound Ledger.claim
  rw [found_eq_deciding h htime]
  cases ledger.deciding expiry c.claim with
  | none => rfl
  | some binding =>
      simp only [Option.map_some, statusOfVerdict_bound, hencode.eq_iff]
      rfl

theorem inMemoryAcceptance_call (s : Cells JsString AcceptedOperation)
    (hexpires : c.expiresAt = some e) (htime : c.now < e) :
    inMemoryResultAcceptanceStore.call c s =
      if acceptanceAdmits c.claim then
        acceptFound id id c e (c.found id s) (s.prune c.now)
      else (.ok .replay, s) := by
  have hpast : ¬ e ≤ c.now := Int.not_le.mpr htime
  rw [acceptanceAdmits_claim]
  unfold ResultAcceptanceStore.call inMemoryResultAcceptanceStore acceptFound
    ResultCall.found ResultCall.record
  cases hlegacy : c.legacyResultId with
  | none =>
      cases hformed : c.input.wellFormed with
      | false => simp [InMemoryResultAcceptanceStore.accept, hexpires, hformed]
      | true =>
          cases hlive : s.live c.now c.resultId <;>
            simp [InMemoryResultAcceptanceStore.accept, hexpires, hpast, hformed,
              Cells.prune, hlive, AcceptedOperation.statusFor_eq]
  | some legacy =>
      cases hformed : c.input.wellFormed && wellFormedLegacyId legacy with
      | false =>
          rcases Bool.and_eq_false_iff.mp hformed with h | h <;>
            simp [InMemoryResultAcceptanceStore.acceptWithLegacy, hexpires, h]
      | true =>
          rw [Bool.and_eq_true] at hformed
          cases hlive : (s.live c.now legacy).or (s.live c.now c.resultId) <;>
            simp [InMemoryResultAcceptanceStore.acceptWithLegacy, hexpires, hpast, hformed,
              Cells.prune, hlive, AcceptedOperation.statusFor_eq]

theorem inMemoryAcceptance_actsAsLedger :
    ActsAsLedger inMemoryResultAcceptanceStore.empty inMemoryResultAcceptanceStore.call
      (fun answer verdict => answer = .ok (statusOfVerdict verdict)) acceptanceAdmits
      (Ledger.Represents id id) where
  empty _ _ := Ledger.Represents.empty
  later h htime := h.later htime
  step := by
    intro expiry s ledger c h hexpires htime _
    rw [inMemoryAcceptance_call s hexpires htime]
    unfold Ledger.answer
    cases acceptanceAdmits c.claim with
    | false => exact ⟨rfl, h⟩
    | true =>
        exact acceptFound_agrees Function.injective_id Function.injective_id h h.prune htime

variable {keyPrefix : JsString}

private theorem statusOfReply_script :
    RedisX424Store.statusOfReply 1 = .new ∧
      RedisX424Store.statusOfReply 2 = .sameOperation ∧
      RedisX424Store.statusOfReply 0 = .replay := ⟨rfl, rfl, rfl⟩

theorem redisAcceptance_call (s : RedisDb)
    (hexpires : c.expiresAt = some e) (htime : c.now < e) :
    (RedisX424Store.resultAcceptances keyPrefix).call c s =
      if acceptanceAdmits c.claim then
        acceptFound AcceptedOperation.canonicalJson (redisKey keyPrefix (js "acceptance")) c e
          (c.found (redisKey keyPrefix (js "acceptance")) s) s
      else (.ok .replay, s) := by
  have hfuture : futureExpiry (some e) c.now = some e := by simp [futureExpiry, htime]
  rw [acceptanceAdmits_claim]
  unfold ResultAcceptanceStore.call RedisX424Store.resultAcceptances acceptFound
    ResultCall.found ResultCall.record
  cases hlegacy : c.legacyResultId with
  | none =>
      cases hformed : c.input.wellFormed with
      | false => simp [RedisX424Store.acceptResult, hexpires, hfuture, hformed]
      | true =>
          cases hlive : s.live c.now (redisKey keyPrefix (js "acceptance") c.resultId) with
          | none =>
              simp [RedisX424Store.acceptResult, hexpires, hfuture, hformed,
                acceptResultScript, RedisTable.get, hlive, statusOfReply_script]
          | some current =>
              by_cases hsame : current.value = c.operation.canonicalJson <;>
                simp [RedisX424Store.acceptResult, hexpires, hfuture, hformed,
                  acceptResultScript, RedisTable.get, hlive, statusOfReply_script, hsame]
  | some legacy =>
      cases hformed : c.input.wellFormed && wellFormedLegacyId legacy with
      | false =>
          rcases Bool.and_eq_false_iff.mp hformed with h | h <;>
            simp [RedisX424Store.acceptResultWithLegacy, hexpires, hfuture, h]
      | true =>
          rw [Bool.and_eq_true] at hformed
          cases hlive : (s.live c.now (redisKey keyPrefix (js "acceptance") legacy)).or
              (s.live c.now (redisKey keyPrefix (js "acceptance") c.resultId)) with
          | none =>
              simp [RedisX424Store.acceptResultWithLegacy, hexpires, hfuture, hformed,
                acceptResultWithLegacyScript, RedisTable.get, ← Option.map_or, hlive,
                statusOfReply_script]
          | some current =>
              by_cases hsame : current.value = c.operation.canonicalJson <;>
                simp [RedisX424Store.acceptResultWithLegacy, hexpires, hfuture, hformed,
                  acceptResultWithLegacyScript, RedisTable.get, ← Option.map_or, hlive,
                  statusOfReply_script, hsame]

theorem redisAcceptance_actsAsLedger (keyPrefix : JsString) :
    ActsAsLedger (RedisX424Store.resultAcceptances keyPrefix).empty
      (RedisX424Store.resultAcceptances keyPrefix).call
      (fun answer verdict => answer = .ok (statusOfVerdict verdict)) acceptanceAdmits
      (Ledger.Represents (redisKey keyPrefix (js "acceptance"))
        AcceptedOperation.canonicalJson) where
  empty _ _ := Ledger.Represents.empty
  later h htime := h.later htime
  step := by
    intro expiry s ledger c h hexpires htime _
    rw [redisAcceptance_call s hexpires htime]
    unfold Ledger.answer
    cases acceptanceAdmits c.claim with
    | false => exact ⟨rfl, h⟩
    | true =>
        exact acceptFound_agrees AcceptedOperation.canonicalJson_injective
          (redisKey_injective keyPrefix _) h h htime

/-- Both forms of a PostgreSQL acceptance, before the expiry, unless rows of the
scoped and of the legacy id are both found. -/
private theorem postgresAcceptance_call (s : Cells JsString AcceptedOperation)
    (hexpires : c.expiresAt = some e) (htime : c.now < e)
    (hrow : s.live c.now c.resultId = s c.resultId)
    (hone : c.legacyResultId.bind (s.live c.now) = none ∨ s c.resultId = none) :
    PostgresX424Store.resultAcceptances.call c s =
      if acceptanceAdmits c.claim then acceptFound id id c e (c.found id s) s
      else (.ok .replay, s) := by
  have hpast : parsedLe (some e) c.now = false := decide_eq_false (Int.not_le.mpr htime)
  rw [acceptanceAdmits_claim]
  unfold ResultAcceptanceStore.call PostgresX424Store.resultAcceptances acceptFound
    ResultCall.found ResultCall.record
  cases hlegacy : c.legacyResultId with
  | none =>
      cases hformed : c.input.wellFormed with
      | false => simp [PostgresX424Store.acceptResult, hexpires, hpast, hformed]
      | true =>
          cases hbound : s c.resultId with
          | none =>
              simp [PostgresX424Store.acceptResult, hexpires, hpast, hformed, hrow, hbound,
                insertOnConflictDoNothing]
          | some row =>
              by_cases hsame : row.value = c.operation <;>
                simp [PostgresX424Store.acceptResult, hexpires, hpast, hformed, hrow,
                  hbound, insertOnConflictDoNothing, hsame]
  | some legacy =>
      cases hformed : c.input.wellFormed && wellFormedLegacyId legacy with
      | false =>
          rcases Bool.and_eq_false_iff.mp hformed with h | h <;>
            simp [PostgresX424Store.acceptResultWithLegacy, hexpires, hpast, h]
      | true =>
          rw [Bool.and_eq_true] at hformed
          rw [hlegacy, Option.bind_some] at hone
          cases hlive : s.live c.now legacy with
          | none =>
              cases hbound : s c.resultId with
              | none =>
                  simp [PostgresX424Store.acceptResultWithLegacy, hexpires, hpast, hformed,
                    hrow, hbound, hlive, insertOnConflictDoNothing]
              | some row =>
                  by_cases hsame : row.value = c.operation <;>
                    simp [PostgresX424Store.acceptResultWithLegacy, hexpires, hpast,
                      hformed, hrow, hbound, hlive, insertOnConflictDoNothing, hsame]
          | some row =>
              have hbound : s c.resultId = none := by
                simpa [hlive] using hone
              by_cases hsame : row.value = c.operation <;>
                simp [PostgresX424Store.acceptResultWithLegacy, hexpires, hpast, hformed,
                  hrow, hbound, hlive, hsame]

theorem postgresAcceptance_actsAsLedger :
    ActsAsLedger PostgresX424Store.resultAcceptances.empty
      PostgresX424Store.resultAcceptances.call
      (fun answer verdict => answer = .ok (statusOfVerdict verdict)) acceptanceAdmits
      (Ledger.Represents id id) where
  empty _ _ := Ledger.Represents.empty
  later h htime := h.later htime
  step := by
    intro expiry s ledger c h hexpires htime hsettled
    have hrow : s c.resultId =
        (ledger c.resultId).map fun binding => ⟨binding, expiry c.resultId⟩ :=
      h.cell_eq htime
    have hone : c.legacyResultId.bind (s.live c.now) = none ∨ s c.resultId = none := by
      by_cases hbound : ledger c.resultId = none
      · exact Or.inr (by rw [hrow, hbound, Option.map_none])
      · refine Or.inl (Option.bind_eq_none_iff.mpr fun legacy hlegacy => ?_)
        refine (h.live_eq legacy).trans ?_
        have := hsettled legacy hlegacy hbound
        split_ifs with hunexpired
        · rw [this hunexpired, Option.map_none]
        · rfl
    rw [postgresAcceptance_call s hexpires htime (h.live_eq_cell htime) hone]
    unfold Ledger.answer
    cases acceptanceAdmits c.claim with
    | false => exact ⟨rfl, h⟩
    | true =>
        exact acceptFound_agrees Function.injective_id Function.injective_id h h htime

end Acceptance

/-! ## Replay stores -/

section Replay

variable {c : ResultCall Unit} {e : Instant} {keyPrefix : JsString}

def inMemoryReplayAdmits (claim : Claim JsString Unit) : Bool :=
  !claim.key.isEmpty && claim.older.all fun legacy => !legacy.isEmpty

def redisReplayAdmits (claim : Claim JsString Unit) : Bool :=
  !claim.key.isEmpty && claim.older.all wellFormedLegacyId

def postgresReplayAdmits (claim : Claim JsString Unit) : Bool :=
  claim.older.all fun legacy => !claim.key.isEmpty && wellFormedLegacyId legacy

/-- A consumption that has `found` what it looks for, or nothing. -/
def consumeFound {ν : Type} (value : ν) (place : JsString → JsString) (c : ResultCall Unit)
    (e : Instant) (found : Option ν) (cells : Cells JsString ν) :
    Except JsError Bool × Cells JsString ν :=
  (.ok found.isNone, c.record (fun _ => value) place e found cells)

private theorem consumeFound_agrees {ν : Type} {value : ν} {place : JsString → JsString}
    {expiry : JsString → Instant} {cells kept : Cells JsString ν} {ledger : Ledger JsString Unit}
    (hplace : Function.Injective place)
    (h : Ledger.Represents place (fun _ => value) expiry c.now cells ledger)
    (hkept : Ledger.Represents place (fun _ => value) expiry c.now kept ledger)
    (htime : c.now < expiry c.resultId) :
    ((consumeFound value place c (expiry c.resultId) (c.found place cells) kept).1 = .ok true ↔
        (ledger.claim expiry c.claim).1 = .fresh) ∧
      Ledger.Represents place (fun _ => value) expiry c.now
        (consumeFound value place c (expiry c.resultId) (c.found place cells) kept).2
        (ledger.claim expiry c.claim).2 := by
  refine ⟨?_, record_represents hplace h hkept htime⟩
  unfold consumeFound Ledger.claim
  rw [found_eq_deciding h htime]
  cases ledger.deciding expiry c.claim with
  | none => simp
  | some binding => simp

private theorem inMemoryReplay_call (s : Cells JsString Unit)
    (hexpires : c.expiresAt = some e) (htime : c.now < e) :
    inMemoryResultReplayStore.call c s =
      if inMemoryReplayAdmits c.claim then
        consumeFound () id c e (c.found id s) (s.prune c.now)
      else (.ok false, s) := by
  have hpast : ¬ e ≤ c.now := Int.not_le.mpr htime
  unfold ResultReplayStore.call inMemoryResultReplayStore consumeFound ResultCall.found
    ResultCall.record inMemoryReplayAdmits ResultCall.claim
  cases hid : c.resultId.isEmpty with
  | true =>
      cases c.legacyResultId <;>
        simp [InMemoryResultReplayStore.consume, InMemoryResultReplayStore.consumeWithLegacy,
          hexpires, hid]
  | false =>
      cases hlegacy : c.legacyResultId with
      | none =>
          cases hlive : s.live c.now c.resultId <;>
            simp [InMemoryResultReplayStore.consume, hexpires, hid, hpast, Cells.prune, hlive]
      | some legacy =>
          cases hlid : legacy.isEmpty <;> cases hfound : s.live c.now legacy <;>
            cases hlive : s.live c.now c.resultId <;>
            simp [InMemoryResultReplayStore.consumeWithLegacy, hexpires, hid, hlid, hpast,
              Cells.prune, hfound, hlive]

theorem inMemoryReplay_actsAsLedger :
    ActsAsLedger inMemoryResultReplayStore.empty inMemoryResultReplayStore.call
      (fun answer verdict => answer = .ok true ↔ verdict = .fresh) inMemoryReplayAdmits
      (Ledger.Represents id fun _ => ()) where
  empty _ _ := Ledger.Represents.empty
  later h htime := h.later htime
  step := by
    intro expiry s ledger c h hexpires htime _
    rw [inMemoryReplay_call s hexpires htime]
    unfold Ledger.answer
    cases inMemoryReplayAdmits c.claim with
    | false => exact ⟨by simp, h⟩
    | true => exact consumeFound_agrees Function.injective_id h h.prune htime

private theorem redisReplay_call (s : RedisDb)
    (hexpires : c.expiresAt = some e) (htime : c.now < e) :
    (RedisX424Store.results keyPrefix).call c s =
      if redisReplayAdmits c.claim then
        consumeFound (js "1") (redisKey keyPrefix (js "result")) c e
          (c.found (redisKey keyPrefix (js "result")) s) s
      else if c.legacyResultId.isSome then (.ok false, s)
      else (.error ⟨js "x424 store ID is required"⟩, s) := by
  have hfuture : futureExpiry (some e) c.now = some e := by simp [futureExpiry, htime]
  unfold ResultReplayStore.call RedisX424Store.results consumeFound ResultCall.found
    ResultCall.record redisReplayAdmits ResultCall.claim
  cases hid : c.resultId.isEmpty with
  | true =>
      cases c.legacyResultId <;>
        simp [RedisX424Store.consumeResult, RedisX424Store.consumeResultWithLegacy,
          hexpires, hfuture, hid]
  | false =>
      cases hlegacy : c.legacyResultId with
      | none =>
          cases hlive : s.live c.now (redisKey keyPrefix (js "result") c.resultId) <;>
            simp [RedisX424Store.consumeResult, RedisTable.setNx, hexpires, hfuture, hid, hlive]
      | some legacy =>
          cases hlid : wellFormedLegacyId legacy <;>
            cases hfound : s.live c.now (redisKey keyPrefix (js "result") legacy) <;>
            cases hlive : s.live c.now (redisKey keyPrefix (js "result") c.resultId) <;>
            simp [RedisX424Store.consumeResultWithLegacy, consumeResultWithLegacyScript,
              hexpires, hfuture, hid, hlid, hfound, hlive]

theorem redisReplay_actsAsLedger (keyPrefix : JsString) :
    ActsAsLedger (RedisX424Store.results keyPrefix).empty
      (RedisX424Store.results keyPrefix).call
      (fun answer verdict => answer = .ok true ↔ verdict = .fresh) redisReplayAdmits
      (Ledger.Represents (redisKey keyPrefix (js "result")) fun _ => js "1") where
  empty _ _ := Ledger.Represents.empty
  later h htime := h.later htime
  step := by
    intro expiry s ledger c h hexpires htime _
    rw [redisReplay_call s hexpires htime]
    unfold Ledger.answer
    cases redisReplayAdmits c.claim with
    | false => cases c.legacyResultId <;> exact ⟨by simp, h⟩
    | true => exact consumeFound_agrees (redisKey_injective keyPrefix _) h h htime

private theorem postgresReplay_call (s : Cells JsString Unit)
    (hexpires : c.expiresAt = some e) (htime : c.now < e)
    (hrow : s.live c.now c.resultId = s c.resultId) :
    PostgresX424Store.results.call c s =
      if postgresReplayAdmits c.claim then consumeFound () id c e (c.found id s) s
      else (.ok false, s) := by
  have hpast : parsedLe (some e) c.now = false := decide_eq_false (Int.not_le.mpr htime)
  unfold ResultReplayStore.call PostgresX424Store.results consumeFound ResultCall.found
    ResultCall.record postgresReplayAdmits ResultCall.claim
  cases hlegacy : c.legacyResultId with
  | none =>
      cases hbound : s c.resultId <;>
        simp [PostgresX424Store.consumeResult, insertOnConflictDoNothing, hexpires, hpast,
          hrow, hbound]
  | some legacy =>
      cases hid : c.resultId.isEmpty <;> cases hlid : wellFormedLegacyId legacy <;>
        cases hfound : s.live c.now legacy <;> cases hbound : s c.resultId <;>
        simp [PostgresX424Store.consumeResultWithLegacy, insertOnConflictDoNothing, hexpires,
          hpast, hid, hlid, hfound, hrow, hbound]

theorem postgresReplay_actsAsLedger :
    ActsAsLedger PostgresX424Store.results.empty PostgresX424Store.results.call
      (fun answer verdict => answer = .ok true ↔ verdict = .fresh) postgresReplayAdmits
      (Ledger.Represents id fun _ => ()) where
  empty _ _ := Ledger.Represents.empty
  later h htime := h.later htime
  step := by
    intro expiry s ledger c h hexpires htime _
    rw [postgresReplay_call s hexpires htime (h.live_eq_cell htime)]
    unfold Ledger.answer
    cases postgresReplayAdmits c.claim with
    | false => exact ⟨by simp, h⟩
    | true => exact consumeFound_agrees Function.injective_id h h htime

end Replay

/-! ## Safety -/

def Claimed (answer : Except JsError ResultAcceptanceStatus) : Prop :=
  answer = .ok .new ∨ answer = .ok .sameOperation

/-- The laws of a history of acceptance calls; `agree` is about the calls that
`agreeing` selects. -/
structure AcceptanceSafe (expiry : JsString → Instant)
    (agreeing : ResultCall AcceptedOperation → Prop)
    (entries : List (ResultCall AcceptedOperation × Except JsError ResultAcceptanceStatus)) :
    Prop where
  agree : entries.Pairwise fun earlier later =>
    earlier.1.resultId = later.1.resultId → agreeing earlier.1 →
    Claimed earlier.2 → Claimed later.2 → earlier.1.operation = later.1.operation
  new_once : entries.Pairwise fun earlier later =>
    earlier.1.resultId = later.1.resultId → earlier.2 = .ok .new → later.2 ≠ .ok .new
  legacy_decides : entries.Pairwise fun earlier later =>
    earlier.2 = .ok .new → later.1.legacyResultId = some earlier.1.resultId →
    later.1.now < expiry earlier.1.resultId →
    later.2 ≠ .ok .new ∧
      (later.2 = .ok .sameOperation → later.1.operation = earlier.1.operation)

structure ReplaySafe (expiry : JsString → Instant)
    (entries : List (ResultCall Unit × Except JsError Bool)) : Prop where
  true_once : entries.Pairwise fun earlier later =>
    earlier.1.resultId = later.1.resultId → earlier.2 = .ok true → later.2 ≠ .ok true
  legacy_decides : entries.Pairwise fun earlier later =>
    earlier.2 = .ok true → later.1.legacyResultId = some earlier.1.resultId →
    later.1.now < expiry earlier.1.resultId → later.2 ≠ .ok true

/-- The legacy id that a call names, if any, expires no earlier than its result id. -/
def LegacyOutlives {β : Type} (expiry : JsString → Instant) (c : ResultCall β) : Prop :=
  ∀ legacy, c.legacyResultId = some legacy → expiry c.resultId ≤ expiry legacy

section Safety

variable {σ : Type} {expiry : JsString → Instant} {legacyOf : JsString → Option JsString}

private theorem ok_status_inj {verdict : Verdict} {status : ResultAcceptanceStatus} :
    (Except.ok (statusOfVerdict verdict) : Except JsError _) = .ok status ↔
      statusOfVerdict verdict = status := by
  rw [Except.ok.injEq]

private theorem status_new_iff {verdict : Verdict} :
    statusOfVerdict verdict = .new ↔ verdict = .fresh := by
  cases verdict <;> simp [statusOfVerdict]

private theorem status_same_iff {verdict : Verdict} :
    statusOfVerdict verdict = .sameOperation ↔ verdict = .same := by
  cases verdict <;> simp [statusOfVerdict]

private theorem accepted_of_claimed {verdict : Verdict}
    (h : Claimed (.ok (statusOfVerdict verdict))) : verdict.accepted := by
  cases verdict with
  | fresh => rfl
  | same => rfl
  | other => rcases h with h | h <;> cases h

theorem acceptanceSafe_of_actsAsLedger {empty : σ}
    {call : ResultCall AcceptedOperation → σ → Except JsError ResultAcceptanceStatus × σ}
    {admits : Claim JsString AcceptedOperation → Bool}
    {holds : (JsString → Instant) → Instant → σ → Ledger JsString AcceptedOperation → Prop}
    (h : ActsAsLedger empty call
      (fun answer verdict => answer = .ok (statusOfVerdict verdict)) admits holds)
    {calls : List (ResultCall AcceptedOperation)}
    (hused : ResultCall.WellUsed expiry legacyOf calls) :
    AcceptanceSafe expiry (LegacyOutlives expiry) (history call empty calls) where
  agree := by
    refine h.pairwise hused (Ledger.accepted_agree hused.claims Ledger.empty) ?_
    rintro c _ c' _ v v' rfl rfl hlaw hid houtlives hearlier hlater
    exact hlaw hid houtlives (accepted_of_claimed hearlier) (accepted_of_claimed hlater)
  new_once := by
    refine h.pairwise hused (Ledger.fresh_once Ledger.empty _) ?_
    rintro c _ c' _ v v' rfl rfl hlaw hid
    simp only [ok_status_inj, status_new_iff, ne_eq]
    exact hlaw hid
  legacy_decides := by
    refine h.pairwise hused (Ledger.alias_decides Ledger.empty _) ?_
    rintro c _ c' _ v v' rfl rfl hlaw
    simp only [ok_status_inj, status_new_iff, status_same_iff, ne_eq]
    exact hlaw

theorem replaySafe_of_actsAsLedger {empty : σ}
    {call : ResultCall Unit → σ → Except JsError Bool × σ}
    {admits : Claim JsString Unit → Bool}
    {holds : (JsString → Instant) → Instant → σ → Ledger JsString Unit → Prop}
    (h : ActsAsLedger empty call
      (fun answer verdict => answer = .ok true ↔ verdict = .fresh) admits holds)
    {calls : List (ResultCall Unit)}
    (hused : ResultCall.WellUsed expiry legacyOf calls) :
    ReplaySafe expiry (history call empty calls) where
  true_once := by
    refine h.pairwise hused (Ledger.fresh_once Ledger.empty _) ?_
    intro c a c' a' v v' hv hv' hlaw hid
    rw [hv, ne_eq, hv']
    exact hlaw hid
  legacy_decides := by
    refine h.pairwise hused (Ledger.alias_decides Ledger.empty _) ?_
    intro c a c' a' v v' hv hv' hlaw hearlier hlegacy htime
    rw [ne_eq, hv']
    exact (hlaw (hv.mp hearlier) hlegacy htime).1

end Safety

/-- The laws of all six stores on one history of acceptance calls and one of
consumptions. -/
structure ResultStoresSafe (keyPrefix : JsString) (expiry : JsString → Instant)
    (agreeing : ResultCall AcceptedOperation → Prop)
    (acceptances : List (ResultCall AcceptedOperation))
    (consumptions : List (ResultCall Unit)) : Prop where
  inMemoryAcceptance : AcceptanceSafe expiry agreeing
    (history inMemoryResultAcceptanceStore.call inMemoryResultAcceptanceStore.empty
      acceptances)
  redisAcceptance : AcceptanceSafe expiry agreeing
    (history (RedisX424Store.resultAcceptances keyPrefix).call
      (RedisX424Store.resultAcceptances keyPrefix).empty acceptances)
  postgresAcceptance : AcceptanceSafe expiry agreeing
    (history PostgresX424Store.resultAcceptances.call
      PostgresX424Store.resultAcceptances.empty acceptances)
  inMemoryReplay : ReplaySafe expiry
    (history inMemoryResultReplayStore.call inMemoryResultReplayStore.empty consumptions)
  redisReplay : ReplaySafe expiry
    (history (RedisX424Store.results keyPrefix).call
      (RedisX424Store.results keyPrefix).empty consumptions)
  postgresReplay : ReplaySafe expiry
    (history PostgresX424Store.results.call PostgresX424Store.results.empty consumptions)

/-! ## A token used before and after the introduction of scoped ids -/

namespace Migration

def legacyId : JsString := js "r1"

def scopedId : JsString := js "sha256:r1"

def legacyOf (id : JsString) : Option JsString :=
  if id = scopedId then some legacyId else none

def calls {β : Type} (expiry : JsString → Instant) (first second : β) : List (ResultCall β) :=
  [⟨legacyId, none, first, some (expiry legacyId), 0⟩,
   ⟨scopedId, some legacyId, first, some (expiry scopedId), 50⟩,
   ⟨scopedId, some legacyId, second, some (expiry scopedId), 150⟩]

theorem wellUsed {β : Type} {expiry : JsString → Instant} (first second : β)
    (hlegacy : 0 < expiry legacyId) (hscoped : 150 < expiry scopedId) :
    ResultCall.WellUsed expiry legacyOf (calls expiry first second) where
  one_expiry := by simp [calls]
  in_time := by
    simp only [calls, List.forall_mem_cons]
    exact ⟨hlegacy, Int.lt_trans (by decide) hscoped, hscoped, by simp⟩
  one_legacy := by
    simp only [calls, List.forall_mem_cons]
    exact ⟨by decide, by decide, by decide, by simp⟩
  legacy_plain id legacy h := by
    simp only [legacyOf, Option.ite_none_right_eq_some, Option.some.injEq] at h
    obtain ⟨_, rfl⟩ := h
    decide
  clock := by simp [calls]
  legacy_first := by
    have hne : legacyId ≠ scopedId := by decide
    simp [calls, hne]

def operation (id : String) : AcceptedOperation :=
  ⟨js id, js "sha256:47DEQpj8HBSa-_TImW-5JCeuQeRkm5NMpJWZG3hSuFU"⟩

def shortLegacy (id : JsString) : Instant := if id = legacyId then 100 else 200

end Migration

/--
A scoped id answered from its legacy entry is not recorded itself.  When the
legacy entry expires first, the next operation finds neither.
-/
theorem resultStores_disagree_after_legacy_expiry :
    ∃ (keyPrefix : JsString) (expiry : JsString → Instant)
      (legacyOf : JsString → Option JsString)
      (acceptances : List (ResultCall AcceptedOperation))
      (consumptions : List (ResultCall Unit)),
      ResultCall.WellUsed expiry legacyOf acceptances ∧
      ResultCall.WellUsed expiry legacyOf consumptions ∧
      ¬ ResultStoresSafe keyPrefix expiry (fun _ => True) acceptances consumptions := by
  refine ⟨js "x424", Migration.shortLegacy, Migration.legacyOf,
    Migration.calls Migration.shortLegacy (Migration.operation "k1")
      (Migration.operation "k2"),
    Migration.calls Migration.shortLegacy () (),
    Migration.wellUsed _ _ (by decide) (by decide),
    Migration.wellUsed _ _ (by decide) (by decide), fun hsafe => ?_⟩
  -- the second and the third call have the same id, succeed and disagree
  have hagree := (List.pairwise_cons.mp (List.pairwise_cons.mp
    hsafe.inMemoryAcceptance.agree).2).1 _ List.mem_cons_self rfl trivial
  exact absurd (hagree (Or.inr (by decide)) (Or.inl (by decide))) (by decide)

/-- Replay and acceptance safety of the in-memory, Redis and PostgreSQL stores. -/
theorem resultStores_safe (keyPrefix : JsString) {expiry : JsString → Instant}
    {legacyOf : JsString → Option JsString}
    {acceptances : List (ResultCall AcceptedOperation)}
    {consumptions : List (ResultCall Unit)}
    (hacceptances : ResultCall.WellUsed expiry legacyOf acceptances)
    (hconsumptions : ResultCall.WellUsed expiry legacyOf consumptions) :
    ResultStoresSafe keyPrefix expiry (LegacyOutlives expiry) acceptances consumptions where
  inMemoryAcceptance :=
    acceptanceSafe_of_actsAsLedger inMemoryAcceptance_actsAsLedger hacceptances
  redisAcceptance :=
    acceptanceSafe_of_actsAsLedger (redisAcceptance_actsAsLedger keyPrefix) hacceptances
  postgresAcceptance :=
    acceptanceSafe_of_actsAsLedger postgresAcceptance_actsAsLedger hacceptances
  inMemoryReplay := replaySafe_of_actsAsLedger inMemoryReplay_actsAsLedger hconsumptions
  redisReplay := replaySafe_of_actsAsLedger (redisReplay_actsAsLedger keyPrefix) hconsumptions
  postgresReplay := replaySafe_of_actsAsLedger postgresReplay_actsAsLedger hconsumptions

theorem resultStores_safe_migration :
    ResultStoresSafe (js "x424") (fun _ => 200) (LegacyOutlives fun _ => 200)
      (Migration.calls (fun _ => 200) (Migration.operation "k1") (Migration.operation "k2"))
      (Migration.calls (fun _ => 200) () ()) :=
  resultStores_safe (js "x424") (Migration.wellUsed _ _ (by decide) (by decide))
    (Migration.wellUsed () () (by decide) (by decide))

end X424
