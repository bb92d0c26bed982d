import X424.Foundation.Noninterference
import X424.Postgres
import X424.Redis

/-!
# Result state routes

`POST /v1/results/:resultId/consume` and `POST /v1/results/:resultId/acceptances`
of the verifier API, over result stores that are aware of the ids used before
tenants had name spaces.  The rate limiter is left out.

A request reads two keys of its store: the digest that scopes its result id to
the tenant, and the result id as the caller wrote it.
-/

namespace X424

open Foundation

structure IssuancePrincipal where
  issuer : Option JsString
  subject : JsString
  deriving DecidableEq, Repr

/-- What `authenticateStateRequest` comes to; without an authenticator every
request is `anonymous`. -/
inductive StateAuthentication where
  | rejected
  | anonymous
  | principal (principal : IssuancePrincipal)
  deriving DecidableEq, Repr

structure ResultConsumeBody where
  expiresAt : IsoTimestamp
  deriving DecidableEq, Repr

structure ResultAcceptanceBody where
  operationId : JsString
  requestDigest : JsString
  expiresAt : IsoTimestamp
  deriving DecidableEq, Repr

/-- The route and its body; `none` is a body of another shape. -/
inductive ResultRequestBody where
  | consume (body : Option ResultConsumeBody)
  | acceptances (body : Option ResultAcceptanceBody)
  deriving DecidableEq, Repr

structure ResultRequest where
  resultId : JsString
  authentication : StateAuthentication
  body : ResultRequestBody
  receivedAt : Instant
  now : Instant
  deriving DecidableEq, Repr

inductive ResultResponse where
  | consumed (consumed : Bool)
  | status (status : ResultAcceptanceStatus)
  | problem (status : Nat) (code : String)
  deriving DecidableEq, Repr

/-! ## Scoped ids -/

def scopedStatePreimage (tenantId stateId : JsString) : JsString :=
  js "x424-state-v1" ++ 0 :: (tenantId ++ 0 :: stateId)

def tenantStatePreimage (principal : IssuancePrincipal) : JsString :=
  js "x424-tenant-v2" ++ 0 :: (principal.issuer.getD [] ++ 0 :: principal.subject)

section Scoping

variable (sha256 : JsString → JsString)

def scopedStateId (tenantId stateId : JsString) : JsString :=
  sha256 (scopedStatePreimage tenantId stateId)

def tenantStateId (principal : IssuancePrincipal) : JsString :=
  sha256 (tenantStatePreimage principal)

def ResultRequest.tenantId (request : ResultRequest) : Option JsString :=
  match request.authentication with
  | .rejected => none
  | .anonymous => some (js "dev-local-unauthenticated")
  | .principal principal => some (tenantStateId sha256 principal)

end Scoping

private theorem nul_notMem_digest {digest : JsString} (h : isSha256Digest digest) :
    (0 : UInt16) ∉ digest := by
  simp only [isSha256Digest, Bool.and_eq_true, beq_iff_eq, List.all_eq_true] at h
  obtain ⟨⟨hscheme, _⟩, hunits⟩ := h
  rw [← List.take_append_drop 7 digest, hscheme, List.mem_append, not_or]
  refine ⟨by decide, fun hmem => ?_⟩
  have := hunits 0 hmem
  revert this
  decide

private theorem nul_separates {a b x y : JsString} (ha : (0 : UInt16) ∉ a)
    (hb : (0 : UInt16) ∉ b) (h : a ++ 0 :: x = b ++ 0 :: y) : a = b ∧ x = y := by
  induction a generalizing b with
  | nil =>
      cases b with
      | nil => exact ⟨rfl, (List.cons.inj h).2⟩
      | cons v b =>
          refine absurd ?_ hb
          rw [← (List.cons.inj h).1]
          exact List.mem_cons_self
  | cons u a ih =>
      cases b with
      | nil =>
          refine absurd ?_ ha
          rw [(List.cons.inj h).1]
          exact List.mem_cons_self
      | cons v b =>
          obtain ⟨rfl, htail⟩ := List.cons.inj h
          obtain ⟨rfl, rfl⟩ := ih (fun hu => ha (List.mem_cons_of_mem _ hu))
            (fun hv => hb (List.mem_cons_of_mem _ hv)) htail
          exact ⟨rfl, rfl⟩

theorem scopedStatePreimage_inj {tenantId tenantId' stateId stateId' : JsString}
    (h : (0 : UInt16) ∉ tenantId) (h' : (0 : UInt16) ∉ tenantId')
    (heq : scopedStatePreimage tenantId stateId = scopedStatePreimage tenantId' stateId') :
    tenantId = tenantId' ∧ stateId = stateId' := by
  have hrest := List.append_cancel_left heq
  exact nul_separates h h' (List.cons.inj hrest).2

theorem nul_notMem_tenantId {sha256 : JsString → JsString}
    (hdigest : ∀ text, isSha256Digest (sha256 text)) {request : ResultRequest}
    {tenantId : JsString} (h : request.tenantId sha256 = some tenantId) :
    (0 : UInt16) ∉ tenantId := by
  unfold ResultRequest.tenantId at h
  cases hauth : request.authentication with
  | rejected => simp [hauth] at h
  | anonymous =>
      simp only [hauth, Option.some.injEq] at h
      rw [← h]
      decide
  | principal principal =>
      simp only [hauth, Option.some.injEq] at h
      rw [← h]
      exact nul_notMem_digest (hdigest _)

/-! ## Routes -/

structure ResultState (σ : Type) where
  consumeWithLegacy : (resultId legacyResultId : JsString) → (expiresAt : IsoTimestamp) →
    (now : Instant) → σ → Except JsError Bool × σ
  acceptWithLegacy : (input : ResultAcceptanceInput) → (legacyResultId : JsString) →
    (now : Instant) → σ → Except JsError ResultAcceptanceStatus × σ

def ResultState.ofStores {σ τ : Type} (replay : ResultReplayStore σ)
    (acceptance : ResultAcceptanceStore τ) : ResultState (σ × τ) where
  consumeWithLegacy resultId legacyResultId expiresAt now s :=
    let reply := replay.consumeWithLegacy resultId legacyResultId expiresAt now s.1
    (reply.1, (reply.2, s.2))
  acceptWithLegacy input legacyResultId now s :=
    let reply := acceptance.acceptWithLegacy input legacyResultId now s.2
    (reply.1, (s.1, reply.2))

def inMemoryResultState : ResultState (Cells JsString Unit × Cells JsString AcceptedOperation) :=
  .ofStores inMemoryResultReplayStore inMemoryResultAcceptanceStore

def postgresResultState :
    ResultState (Cells JsString Unit × Cells JsString AcceptedOperation) :=
  .ofStores PostgresX424Store.results PostgresX424Store.resultAcceptances

def redisResultState (keyPrefix : JsString) : ResultState RedisDb where
  consumeWithLegacy := (RedisX424Store.results keyPrefix).consumeWithLegacy
  acceptWithLegacy := (RedisX424Store.resultAcceptances keyPrefix).acceptWithLegacy

def boundedFutureExpiry (expiresAt : IsoTimestamp) (maximumTtlSeconds : Nat)
    (now : Instant) : Bool :=
  match expiresAt with
  | none => false
  | some expiresAtMs => now < expiresAtMs && expiresAtMs ≤ now + maximumTtlSeconds * 1000

/-- `StateResourceIdSchema`. -/
def isStateResourceId (id : JsString) : Bool := !id.isEmpty && id.length ≤ 200

/-- `ResultAcceptanceSchema`, but for the timestamp. -/
def ResultAcceptanceBody.wellFormed (body : ResultAcceptanceBody) : Bool :=
  !body.operationId.isEmpty && body.operationId.length ≤ 512 &&
    isSha256Digest body.requestDigest

section Routes

variable {σ : Type} (sha256 : JsString → JsString) (maximumStateTtlSeconds : Nat)
  (state : ResultState σ)

def consumeRoute (request : ResultRequest) (body : Option ResultConsumeBody) (s : σ) :
    ResultResponse × σ :=
  match body with
  | none => (.problem 400 "INVALID_RESULT_CONSUMPTION", s)
  | some body =>
      if !isStateResourceId request.resultId ||
          !boundedFutureExpiry body.expiresAt maximumStateTtlSeconds request.receivedAt then
        (.problem 400 "INVALID_RESULT_CONSUMPTION", s)
      else
        match request.tenantId sha256 with
        | none => (.problem 401 "RESULT_CONSUMPTION_REJECTED", s)
        | some tenantId =>
            match state.consumeWithLegacy (scopedStateId sha256 tenantId request.resultId)
                request.resultId body.expiresAt request.now s with
            | (.ok consumed, s) => (.consumed consumed, s)
            | (.error _, s) => (.problem 401 "RESULT_CONSUMPTION_REJECTED", s)

def acceptancesRoute (request : ResultRequest) (body : Option ResultAcceptanceBody) (s : σ) :
    ResultResponse × σ :=
  match body with
  | none => (.problem 400 "INVALID_RESULT_ACCEPTANCE", s)
  | some body =>
      if !isStateResourceId request.resultId || !body.wellFormed ||
          !boundedFutureExpiry body.expiresAt maximumStateTtlSeconds request.receivedAt then
        (.problem 400 "INVALID_RESULT_ACCEPTANCE", s)
      else
        match request.tenantId sha256 with
        | none => (.problem 401 "RESULT_ACCEPTANCE_REJECTED", s)
        | some tenantId =>
            match state.acceptWithLegacy
                ⟨scopedStateId sha256 tenantId request.resultId, body.operationId,
                  body.requestDigest, body.expiresAt⟩
                request.resultId request.now s with
            | (.ok status, s) => (.status status, s)
            | (.error _, s) => (.problem 401 "RESULT_ACCEPTANCE_REJECTED", s)

def resultRoute (request : ResultRequest) (s : σ) : ResultResponse × σ :=
  match request.body with
  | .consume body => consumeRoute sha256 maximumStateTtlSeconds state request body s
  | .acceptances body => acceptancesRoute sha256 maximumStateTtlSeconds state request body s

end Routes

/-! ## What a request reads and writes -/

/--
`Same keys now` relates states that nobody can tell apart through `keys` from
`now` on.  A legacy-aware call reads its two ids and writes the scoped one.
-/
structure KeyLocal {σ : Type} (state : ResultState σ)
    (Same : (JsString → Prop) → Instant → σ → σ → Prop) : Prop where
  refl : ∀ keys now s, Same keys now s s
  later : ∀ {keys now time s t}, Same keys now s t → now ≤ time → Same keys time s t
  consume_seen : ∀ {keys now s t} {resultId legacyResultId : JsString}
    (expiresAt : IsoTimestamp), Same keys now s t → keys resultId → keys legacyResultId →
    (state.consumeWithLegacy resultId legacyResultId expiresAt now s).1 =
        (state.consumeWithLegacy resultId legacyResultId expiresAt now t).1 ∧
      Same keys now (state.consumeWithLegacy resultId legacyResultId expiresAt now s).2
        (state.consumeWithLegacy resultId legacyResultId expiresAt now t).2
  consume_hidden : ∀ {keys now s t} {resultId : JsString} (legacyResultId : JsString)
    (expiresAt : IsoTimestamp), Same keys now s t → ¬ keys resultId →
    Same keys now (state.consumeWithLegacy resultId legacyResultId expiresAt now s).2 t
  accept_seen : ∀ {keys now s t} {legacyResultId : JsString} (input : ResultAcceptanceInput),
    Same keys now s t → keys input.resultId → keys legacyResultId →
    (state.acceptWithLegacy input legacyResultId now s).1 =
        (state.acceptWithLegacy input legacyResultId now t).1 ∧
      Same keys now (state.acceptWithLegacy input legacyResultId now s).2
        (state.acceptWithLegacy input legacyResultId now t).2
  accept_hidden : ∀ {keys now s t} (input : ResultAcceptanceInput)
    (legacyResultId : JsString), Same keys now s t → ¬ keys input.resultId →
    Same keys now (state.acceptWithLegacy input legacyResultId now s).2 t

section InMemory

variable {keys : JsString → Prop} {now : Instant}

private theorem inMemoryConsume_seen {s t : Cells JsString Unit}
    {resultId legacyResultId : JsString} (expiresAt : IsoTimestamp)
    (h : s.AgreeOn keys now t) (hid : keys resultId) (hlegacy : keys legacyResultId) :
    (InMemoryResultReplayStore.consumeWithLegacy resultId legacyResultId expiresAt now s).1 =
        (InMemoryResultReplayStore.consumeWithLegacy resultId legacyResultId expiresAt now t).1 ∧
      Cells.AgreeOn keys now
        (InMemoryResultReplayStore.consumeWithLegacy resultId legacyResultId expiresAt now s).2
        (InMemoryResultReplayStore.consumeWithLegacy resultId legacyResultId expiresAt now
          t).2 := by
  unfold InMemoryResultReplayStore.consumeWithLegacy
  cases expiresAt with
  | none => exact ⟨rfl, h⟩
  | some expiresAtMs =>
      obtain ⟨found, hfound⟩ : ∃ found, t.live now resultId = found := ⟨_, rfl⟩
      obtain ⟨older, holder⟩ : ∃ older, t.live now legacyResultId = older := ⟨_, rfl⟩
      simp only [Cells.prune, h.live_eq hid, h.live_eq hlegacy, hfound, holder]
      split_ifs
      · exact ⟨rfl, h⟩
      · exact ⟨rfl, h.prune⟩
      · exact ⟨rfl, h.prune.put resultId _⟩

private theorem inMemoryConsume_hidden {s t : Cells JsString Unit} {resultId : JsString}
    (legacyResultId : JsString) (expiresAt : IsoTimestamp) (h : s.AgreeOn keys now t)
    (hid : ¬ keys resultId) :
    Cells.AgreeOn keys now
      (InMemoryResultReplayStore.consumeWithLegacy resultId legacyResultId expiresAt now
        s).2 t := by
  unfold InMemoryResultReplayStore.consumeWithLegacy
  cases expiresAt with
  | none => exact h
  | some expiresAtMs =>
      dsimp only
      split_ifs
      · exact h
      · exact h.prune_left
      · exact h.prune_left.put_left _ hid

private theorem inMemoryAccept_seen {s t : Cells JsString AcceptedOperation}
    (input : ResultAcceptanceInput) {legacyResultId : JsString}
    (h : s.AgreeOn keys now t) (hid : keys input.resultId) (hlegacy : keys legacyResultId) :
    (InMemoryResultAcceptanceStore.acceptWithLegacy input legacyResultId now s).1 =
        (InMemoryResultAcceptanceStore.acceptWithLegacy input legacyResultId now t).1 ∧
      Cells.AgreeOn keys now
        (InMemoryResultAcceptanceStore.acceptWithLegacy input legacyResultId now s).2
        (InMemoryResultAcceptanceStore.acceptWithLegacy input legacyResultId now t).2 := by
  unfold InMemoryResultAcceptanceStore.acceptWithLegacy
  cases input.expiresAt with
  | none => exact ⟨rfl, h⟩
  | some expiresAtMs =>
      obtain ⟨existing, hexisting⟩ : ∃ existing,
        (t.live now legacyResultId).or (t.live now input.resultId) = existing := ⟨_, rfl⟩
      simp only [Cells.prune, h.live_eq hid, h.live_eq hlegacy, hexisting]
      split_ifs
      · exact ⟨rfl, h⟩
      · cases existing with
        | none => exact ⟨rfl, h.prune.put input.resultId _⟩
        | some existing => exact ⟨rfl, h.prune⟩

private theorem inMemoryAccept_hidden {s t : Cells JsString AcceptedOperation}
    (input : ResultAcceptanceInput) (legacyResultId : JsString) (h : s.AgreeOn keys now t)
    (hid : ¬ keys input.resultId) :
    Cells.AgreeOn keys now
      (InMemoryResultAcceptanceStore.acceptWithLegacy input legacyResultId now s).2 t := by
  unfold InMemoryResultAcceptanceStore.acceptWithLegacy
  cases input.expiresAt with
  | none => exact h
  | some expiresAtMs =>
      dsimp only
      split_ifs
      · exact h
      · cases (s.prune now legacyResultId).or (s.prune now input.resultId) with
        | none => exact h.prune_left.put_left _ hid
        | some existing => exact h.prune_left

end InMemory

theorem inMemoryResultState_keyLocal :
    KeyLocal inMemoryResultState fun keys now s t =>
      s.1.AgreeOn keys now t.1 ∧ s.2.AgreeOn keys now t.2 where
  refl keys now s := ⟨.refl keys now s.1, .refl keys now s.2⟩
  later h htime := ⟨h.1.later htime, h.2.later htime⟩
  consume_seen expiresAt h hid hlegacy :=
    let hseen := inMemoryConsume_seen expiresAt h.1 hid hlegacy
    ⟨hseen.1, hseen.2, h.2⟩
  consume_hidden legacyResultId expiresAt h hid :=
    ⟨inMemoryConsume_hidden legacyResultId expiresAt h.1 hid, h.2⟩
  accept_seen input h hid hlegacy :=
    let hseen := inMemoryAccept_seen input h.2 hid hlegacy
    ⟨hseen.1, h.1, hseen.2⟩
  accept_hidden input legacyResultId h hid :=
    ⟨h.1, inMemoryAccept_hidden input legacyResultId h.2 hid⟩

section Redis

variable {keyPrefix : JsString} {keys : JsString → Prop} {now : Instant} {s t : RedisDb}

def redisResultKeys (keyPrefix : JsString) (keys : JsString → Prop) (key : JsString) : Prop :=
  ∃ id, keys id ∧
    (key = redisKey keyPrefix (js "result") id ∨ key = redisKey keyPrefix (js "acceptance") id)

private theorem redisKey_kind_ne {id id' : JsString} :
    redisKey keyPrefix (js "result") id ≠ redisKey keyPrefix (js "acceptance") id' := by
  intro h
  simp only [redisKey, List.append_assoc] at h
  have hrest := List.append_cancel_left (List.append_cancel_left h)
  exact absurd (List.cons.inj hrest).1 (by decide)

private theorem redisResultKeys_result {id : JsString} :
    redisResultKeys keyPrefix keys (redisKey keyPrefix (js "result") id) ↔ keys id := by
  constructor
  · rintro ⟨other, hother, h | h⟩
    · rwa [redisKey_inj.mp h]
    · exact absurd h redisKey_kind_ne
  · exact fun h => ⟨id, h, Or.inl rfl⟩

private theorem redisResultKeys_acceptance {id : JsString} :
    redisResultKeys keyPrefix keys (redisKey keyPrefix (js "acceptance") id) ↔ keys id := by
  constructor
  · rintro ⟨other, hother, h | h⟩
    · exact absurd h.symm redisKey_kind_ne
    · rwa [redisKey_inj.mp h]
  · exact fun h => ⟨id, h, Or.inr rfl⟩

private theorem redisConsume_seen {resultId legacyResultId : JsString}
    (expiresAt : IsoTimestamp)
    (h : s.AgreeOn (redisResultKeys keyPrefix keys) now t) (hid : keys resultId)
    (hlegacy : keys legacyResultId) :
    (RedisX424Store.consumeResultWithLegacy keyPrefix resultId legacyResultId expiresAt now s).1 =
        (RedisX424Store.consumeResultWithLegacy keyPrefix resultId legacyResultId expiresAt
          now t).1 ∧
      Cells.AgreeOn (redisResultKeys keyPrefix keys) now
        (RedisX424Store.consumeResultWithLegacy keyPrefix resultId legacyResultId expiresAt
          now s).2
        (RedisX424Store.consumeResultWithLegacy keyPrefix resultId legacyResultId expiresAt
          now t).2 := by
  unfold RedisX424Store.consumeResultWithLegacy consumeResultWithLegacyScript
  cases futureExpiry expiresAt now with
  | none => exact ⟨rfl, h⟩
  | some expiresAtMs =>
      obtain ⟨found, hfound⟩ :
        ∃ found, t.live now (redisKey keyPrefix (js "result") resultId) = found := ⟨_, rfl⟩
      obtain ⟨older, holder⟩ :
        ∃ older, t.live now (redisKey keyPrefix (js "result") legacyResultId) = older :=
          ⟨_, rfl⟩
      simp only [h.live_eq (redisResultKeys_result.mpr hid),
        h.live_eq (redisResultKeys_result.mpr hlegacy), hfound, holder]
      split_ifs
      · exact ⟨rfl, h⟩
      · exact ⟨rfl, h⟩
      · exact ⟨rfl, h⟩
      · exact ⟨rfl, h.put _ _⟩

private theorem redisConsume_hidden {resultId : JsString} (legacyResultId : JsString)
    (expiresAt : IsoTimestamp) (h : s.AgreeOn (redisResultKeys keyPrefix keys) now t)
    (hid : ¬ keys resultId) :
    Cells.AgreeOn (redisResultKeys keyPrefix keys) now
      (RedisX424Store.consumeResultWithLegacy keyPrefix resultId legacyResultId expiresAt
        now s).2 t := by
  unfold RedisX424Store.consumeResultWithLegacy consumeResultWithLegacyScript
  cases futureExpiry expiresAt now with
  | none => exact h
  | some expiresAtMs =>
      dsimp only
      split_ifs
      · exact h
      · exact h
      · exact h
      · exact h.put_left _ (mt redisResultKeys_result.mp hid)

private theorem redisAccept_seen (input : ResultAcceptanceInput) {legacyResultId : JsString}
    (h : s.AgreeOn (redisResultKeys keyPrefix keys) now t) (hid : keys input.resultId)
    (hlegacy : keys legacyResultId) :
    (RedisX424Store.acceptResultWithLegacy keyPrefix input legacyResultId now s).1 =
        (RedisX424Store.acceptResultWithLegacy keyPrefix input legacyResultId now t).1 ∧
      Cells.AgreeOn (redisResultKeys keyPrefix keys) now
        (RedisX424Store.acceptResultWithLegacy keyPrefix input legacyResultId now s).2
        (RedisX424Store.acceptResultWithLegacy keyPrefix input legacyResultId now t).2 := by
  unfold RedisX424Store.acceptResultWithLegacy acceptResultWithLegacyScript
  cases futureExpiry input.expiresAt now with
  | none => exact ⟨rfl, h⟩
  | some expiresAtMs =>
      obtain ⟨current, hcurrent⟩ : ∃ current,
        (t.get now (redisKey keyPrefix (js "acceptance") legacyResultId)).or
          (t.get now (redisKey keyPrefix (js "acceptance") input.resultId)) = current :=
        ⟨_, rfl⟩
      simp only [RedisTable.get, h.live_eq (redisResultKeys_acceptance.mpr hid),
        h.live_eq (redisResultKeys_acceptance.mpr hlegacy)] at hcurrent ⊢
      simp only [hcurrent]
      split_ifs
      · exact ⟨rfl, h⟩
      · cases current with
        | none => exact ⟨rfl, h.put _ _⟩
        | some current => exact ⟨rfl, h⟩

private theorem redisAccept_hidden (input : ResultAcceptanceInput) (legacyResultId : JsString)
    (h : s.AgreeOn (redisResultKeys keyPrefix keys) now t) (hid : ¬ keys input.resultId) :
    Cells.AgreeOn (redisResultKeys keyPrefix keys) now
      (RedisX424Store.acceptResultWithLegacy keyPrefix input legacyResultId now s).2 t := by
  unfold RedisX424Store.acceptResultWithLegacy acceptResultWithLegacyScript
  cases futureExpiry input.expiresAt now with
  | none => exact h
  | some expiresAtMs =>
      dsimp only
      split_ifs
      · exact h
      · split
        · exact h.put_left _ (mt redisResultKeys_acceptance.mp hid)
        · exact h

end Redis

theorem redisResultState_keyLocal (keyPrefix : JsString) :
    KeyLocal (redisResultState keyPrefix) fun keys now s t =>
      Cells.AgreeOn (redisResultKeys keyPrefix keys) now s t where
  refl _ _ _ := .refl _ _ _
  later h htime := h.later htime
  consume_seen := redisConsume_seen
  consume_hidden := redisConsume_hidden
  accept_seen input := redisAccept_seen input
  accept_hidden := redisAccept_hidden

section Postgres

variable {ν : Type} {keys : JsString → Prop} {now : Instant}

def RowsAgree (keys : JsString → Prop) (s t : Cells JsString ν) : Prop :=
  ∀ key, keys key → s key = t key

private theorem RowsAgree.put {s t : Cells JsString ν} (h : RowsAgree keys s t)
    (target : JsString) (row : Cell ν) : RowsAgree keys (s.put target row) (t.put target row) := by
  intro key hkey
  by_cases htarget : key = target
  · subst htarget
    simp [Cells.put]
  · simp only [Cells.put, Function.update_of_ne htarget]
    exact h key hkey

private theorem RowsAgree.put_left {s t : Cells JsString ν} (h : RowsAgree keys s t)
    {target : JsString} (row : Cell ν) (htarget : ¬ keys target) :
    RowsAgree keys (s.put target row) t := by
  intro key hkey
  have hne : key ≠ target := by
    rintro rfl
    exact htarget hkey
  simp only [Cells.put, Function.update_of_ne hne]
  exact h key hkey

private theorem RowsAgree.live_eq {s t : Cells JsString ν} (h : RowsAgree keys s t)
    {key : JsString} (hkey : keys key) (now : Instant) : s.live now key = t.live now key := by
  simp only [Cells.live, h key hkey]

private theorem insert_seen {s t : Cells JsString ν} (h : RowsAgree keys s t)
    {key : JsString} (hkey : keys key) (row : Cell ν) :
    (insertOnConflictDoNothing s key row).1 = (insertOnConflictDoNothing t key row).1 ∧
      RowsAgree keys (insertOnConflictDoNothing s key row).2
        (insertOnConflictDoNothing t key row).2 := by
  unfold insertOnConflictDoNothing
  simp only [h key hkey]
  split_ifs
  · exact ⟨rfl, h⟩
  · exact ⟨rfl, h.put key row⟩

private theorem insert_hidden {s t : Cells JsString ν} (h : RowsAgree keys s t)
    {key : JsString} (hkey : ¬ keys key) (row : Cell ν) :
    RowsAgree keys (insertOnConflictDoNothing s key row).2 t := by
  unfold insertOnConflictDoNothing
  split_ifs
  · exact h
  · exact h.put_left row hkey

private theorem postgresConsume_seen {s t : Cells JsString Unit}
    {resultId legacyResultId : JsString} (expiresAt : IsoTimestamp)
    (h : RowsAgree keys s t) (hid : keys resultId) (hlegacy : keys legacyResultId) :
    (PostgresX424Store.consumeResultWithLegacy resultId legacyResultId expiresAt now s).1 =
        (PostgresX424Store.consumeResultWithLegacy resultId legacyResultId expiresAt now t).1 ∧
      RowsAgree keys
        (PostgresX424Store.consumeResultWithLegacy resultId legacyResultId expiresAt now s).2
        (PostgresX424Store.consumeResultWithLegacy resultId legacyResultId expiresAt now t).2 := by
  unfold PostgresX424Store.consumeResultWithLegacy
  simp only [h.live_eq hlegacy now]
  cases expiresAt with
  | none => split_ifs <;> exact ⟨rfl, h⟩
  | some expiresAtMs =>
      obtain ⟨hreply, hrows⟩ := insert_seen h hid ⟨(), expiresAtMs⟩
      dsimp only
      split_ifs
      · exact ⟨rfl, h⟩
      · exact ⟨rfl, h⟩
      · exact ⟨congrArg Except.ok hreply, hrows⟩

private theorem postgresConsume_hidden {s t : Cells JsString Unit} {resultId : JsString}
    (legacyResultId : JsString) (expiresAt : IsoTimestamp) (h : RowsAgree keys s t)
    (hid : ¬ keys resultId) :
    RowsAgree keys
      (PostgresX424Store.consumeResultWithLegacy resultId legacyResultId expiresAt now s).2 t := by
  unfold PostgresX424Store.consumeResultWithLegacy
  cases expiresAt with
  | none => split_ifs <;> exact h
  | some expiresAtMs =>
      dsimp only
      split_ifs
      · exact h
      · exact h
      · exact insert_hidden h hid _

private theorem postgresAccept_seen {s t : Cells JsString AcceptedOperation}
    (input : ResultAcceptanceInput) {legacyResultId : JsString}
    (h : RowsAgree keys s t) (hid : keys input.resultId) (hlegacy : keys legacyResultId) :
    (PostgresX424Store.acceptResultWithLegacy input legacyResultId now s).1 =
        (PostgresX424Store.acceptResultWithLegacy input legacyResultId now t).1 ∧
      RowsAgree keys
        (PostgresX424Store.acceptResultWithLegacy input legacyResultId now s).2
        (PostgresX424Store.acceptResultWithLegacy input legacyResultId now t).2 := by
  unfold PostgresX424Store.acceptResultWithLegacy
  split_ifs
  · exact ⟨rfl, h⟩
  · cases input.expiresAt with
    | none => exact ⟨rfl, h⟩
    | some expiresAtMs =>
        obtain ⟨hreply, hrows⟩ := insert_seen h hid ⟨input.operation, expiresAtMs⟩
        obtain ⟨row, hrow⟩ : ∃ row, t.live now input.resultId = row := ⟨_, rfl⟩
        obtain ⟨legacy, hlive⟩ : ∃ legacy, t.live now legacyResultId = legacy := ⟨_, rfl⟩
        simp only [h.live_eq hid now, h.live_eq hlegacy now, hrow, hlive]
        cases legacy with
        | some legacy =>
            simp only [Option.isSome_some, if_true, Bool.false_eq_true, if_false]
            split_ifs <;> exact ⟨rfl, h⟩
        | none =>
            simp only [Option.isSome_none, Bool.false_eq_true, if_false, hreply]
            split_ifs <;> exact ⟨rfl, hrows⟩

private theorem postgresAccept_hidden {s t : Cells JsString AcceptedOperation}
    (input : ResultAcceptanceInput) (legacyResultId : JsString) (h : RowsAgree keys s t)
    (hid : ¬ keys input.resultId) :
    RowsAgree keys
      (PostgresX424Store.acceptResultWithLegacy input legacyResultId now s).2 t := by
  unfold PostgresX424Store.acceptResultWithLegacy
  split
  · exact h
  · cases input.expiresAt with
    | none => exact h
    | some expiresAtMs =>
        have hrows := insert_hidden h hid ⟨input.operation, expiresAtMs⟩
        dsimp only
        split_ifs <;> first | exact h | exact hrows

end Postgres

theorem postgresResultState_keyLocal :
    KeyLocal postgresResultState fun keys _ s t =>
      RowsAgree keys s.1 t.1 ∧ RowsAgree keys s.2 t.2 where
  refl _ _ _ := ⟨fun _ _ => rfl, fun _ _ => rfl⟩
  later h _ := h
  consume_seen expiresAt h hid hlegacy :=
    let hseen := postgresConsume_seen expiresAt h.1 hid hlegacy
    ⟨hseen.1, hseen.2, h.2⟩
  consume_hidden legacyResultId expiresAt h hid :=
    ⟨postgresConsume_hidden legacyResultId expiresAt h.1 hid, h.2⟩
  accept_seen input h hid hlegacy :=
    let hseen := postgresAccept_seen input h.2 hid hlegacy
    ⟨hseen.1, h.1, hseen.2⟩
  accept_hidden input legacyResultId h hid :=
    ⟨h.1, postgresAccept_hidden input legacyResultId h.2 hid⟩

/-! ## Isolation of tenants -/

section Isolation

variable {σ : Type} {sha256 : JsString → JsString} {maximumStateTtlSeconds : Nat}
  {state : ResultState σ} {Same : (JsString → Prop) → Instant → σ → σ → Prop}

theorem resultRoute_seen (h : KeyLocal state Same) {keys : JsString → Prop}
    {request : ResultRequest} {tenantId : JsString}
    (htenant : request.tenantId sha256 = some tenantId)
    (hscoped : keys (scopedStateId sha256 tenantId request.resultId))
    (hraw : keys request.resultId) {s t : σ} (hsame : Same keys request.now s t) :
    (resultRoute sha256 maximumStateTtlSeconds state request s).1 =
        (resultRoute sha256 maximumStateTtlSeconds state request t).1 ∧
      Same keys request.now (resultRoute sha256 maximumStateTtlSeconds state request s).2
        (resultRoute sha256 maximumStateTtlSeconds state request t).2 := by
  unfold resultRoute
  cases request.body with
  | consume body =>
      cases body with
      | none => exact ⟨rfl, hsame⟩
      | some body =>
          obtain ⟨hanswer, hnext⟩ := h.consume_seen body.expiresAt hsame hscoped hraw
          simp only [consumeRoute, htenant]
          split
          · exact ⟨rfl, hsame⟩
          · generalize state.consumeWithLegacy _ _ _ _ s = left at hanswer hnext ⊢
            generalize state.consumeWithLegacy _ _ _ _ t = right at hanswer hnext ⊢
            obtain ⟨answer, s'⟩ := left
            obtain ⟨_, t'⟩ := right
            cases hanswer
            cases answer <;> exact ⟨rfl, hnext⟩
  | acceptances body =>
      cases body with
      | none => exact ⟨rfl, hsame⟩
      | some body =>
          obtain ⟨hanswer, hnext⟩ := h.accept_seen
            ⟨scopedStateId sha256 tenantId request.resultId, body.operationId,
              body.requestDigest, body.expiresAt⟩ hsame hscoped hraw
          simp only [acceptancesRoute, htenant]
          split
          · exact ⟨rfl, hsame⟩
          · generalize state.acceptWithLegacy _ _ _ s = left at hanswer hnext ⊢
            generalize state.acceptWithLegacy _ _ _ t = right at hanswer hnext ⊢
            obtain ⟨answer, s'⟩ := left
            obtain ⟨_, t'⟩ := right
            cases hanswer
            cases answer <;> exact ⟨rfl, hnext⟩

theorem resultRoute_hidden (h : KeyLocal state Same) {keys : JsString → Prop}
    {request : ResultRequest}
    (hscoped : ∀ tenantId, request.tenantId sha256 = some tenantId →
      ¬ keys (scopedStateId sha256 tenantId request.resultId))
    {s t : σ} (hsame : Same keys request.now s t) :
    Same keys request.now (resultRoute sha256 maximumStateTtlSeconds state request s).2 t := by
  unfold resultRoute
  cases request.body with
  | consume body =>
      cases body with
      | none => exact hsame
      | some body =>
          simp only [consumeRoute]
          split
          · exact hsame
          · cases htenant : request.tenantId sha256 with
            | none => exact hsame
            | some tenantId =>
                have hnext := h.consume_hidden request.resultId body.expiresAt hsame
                  (hscoped tenantId htenant)
                dsimp only
                generalize state.consumeWithLegacy _ _ _ _ s = left at hnext ⊢
                obtain ⟨answer, s'⟩ := left
                cases answer <;> exact hnext
  | acceptances body =>
      cases body with
      | none => exact hsame
      | some body =>
          simp only [acceptancesRoute]
          split
          · exact hsame
          · cases htenant : request.tenantId sha256 with
            | none => exact hsame
            | some tenantId =>
                have hnext := h.accept_hidden
                  ⟨scopedStateId sha256 tenantId request.resultId, body.operationId,
                    body.requestDigest, body.expiresAt⟩
                  request.resultId hsame (hscoped tenantId htenant)
                dsimp only
                generalize state.acceptWithLegacy _ _ _ s = left at hnext ⊢
                obtain ⟨answer, s'⟩ := left
                cases answer <;> exact hnext

end Isolation

section Tenants

variable (sha256 : JsString → JsString)

def ofTenant (tenantId : JsString) (request : ResultRequest) : Bool :=
  request.tenantId sha256 == some tenantId

def ResultRequest.scopedPreimage (request : ResultRequest) : Option JsString :=
  (request.tenantId sha256).map fun tenantId => scopedStatePreimage tenantId request.resultId

def ResultRequest.scopedResultId (request : ResultRequest) : Option JsString :=
  (request.scopedPreimage sha256).map sha256

def tenantView {σ : Type} (maximumStateTtlSeconds : Nat) (state : ResultState σ)
    (tenantId : JsString) (s : σ) (requests : List ResultRequest) :
    List (ResultRequest × ResultResponse) :=
  (history (resultRoute sha256 maximumStateTtlSeconds state) s requests).filter
    fun entry => ofTenant sha256 tenantId entry.1

/-- Two runs that differ only in the requests of other tenants.  SHA-256 enters
through the form of its digests and through its injectivity on the preimages
that occur. -/
structure DifferInOthers (tenantId : JsString) (left right : List ResultRequest) : Prop where
  clock_left : left.Pairwise fun earlier later => earlier.now ≤ later.now
  clock_right : right.Pairwise fun earlier later => earlier.now ≤ later.now
  own : left.filter (ofTenant sha256 tenantId) = right.filter (ofTenant sha256 tenantId)
  digest : ∀ text, isSha256Digest (sha256 text)
  injective : ∀ r ∈ left ++ right, ∀ r' ∈ left ++ right,
    r.scopedResultId sha256 = r'.scopedResultId sha256 →
    r.scopedPreimage sha256 = r'.scopedPreimage sha256

/-- What the tenant is answered does not depend on the other tenants, whatever
the stores hold at first. -/
def TenantIsolated {σ : Type} (maximumStateTtlSeconds : Nat) (state : ResultState σ)
    (tenantId : JsString) (left right : List ResultRequest) : Prop :=
  ∀ s, tenantView sha256 maximumStateTtlSeconds state tenantId s left =
    tenantView sha256 maximumStateTtlSeconds state tenantId s right

/-- The tenant uses no result id that is the scoped id of another tenant's request. -/
def AvoidsScopedIds (tenantId : JsString) (requests : List ResultRequest) : Prop :=
  ∀ own ∈ requests, ofTenant sha256 tenantId own = true →
    ∀ other ∈ requests, ofTenant sha256 tenantId other = false →
      some own.resultId ≠ other.scopedResultId sha256

instance (tenantId : JsString) (requests : List ResultRequest) :
    Decidable (AvoidsScopedIds sha256 tenantId requests) :=
  inferInstanceAs (Decidable (∀ own ∈ requests, ofTenant sha256 tenantId own = true →
    ∀ other ∈ requests, ofTenant sha256 tenantId other = false →
      some own.resultId ≠ other.scopedResultId sha256))

variable {sha256}

theorem scopedResultId_eq {request : ResultRequest} {t : JsString}
    (h : request.tenantId sha256 = some t) :
    request.scopedResultId sha256 = some (scopedStateId sha256 t request.resultId) := by
  simp [ResultRequest.scopedResultId, ResultRequest.scopedPreimage, h, scopedStateId]

theorem scopedStateId_ne {tenantId : JsString} {left right : List ResultRequest}
    (h : DifferInOthers sha256 tenantId left right) {own other : ResultRequest}
    (hown : own ∈ left ++ right) (hother : other ∈ left ++ right) {t : JsString}
    (htenant : own.tenantId sha256 = some tenantId) (ht : other.tenantId sha256 = some t)
    (hne : t ≠ tenantId) :
    scopedStateId sha256 t other.resultId ≠ scopedStateId sha256 tenantId own.resultId := by
  intro heq
  have hpreimage : other.scopedPreimage sha256 = own.scopedPreimage sha256 := by
    refine h.injective other hother own hown ?_
    rw [scopedResultId_eq ht, scopedResultId_eq htenant, heq]
  simp only [ResultRequest.scopedPreimage, ht, htenant, Option.map_some,
    Option.some.injEq] at hpreimage
  exact hne (scopedStatePreimage_inj (nul_notMem_tenantId h.digest ht)
    (nul_notMem_tenantId h.digest htenant) hpreimage).1

theorem tenantIsolated_of_keyLocal {σ : Type} {state : ResultState σ}
    {Same : (JsString → Prop) → Instant → σ → σ → Prop} (hlocal : KeyLocal state Same)
    (maximumStateTtlSeconds : Nat) {tenantId : JsString} {left right : List ResultRequest}
    (h : DifferInOthers sha256 tenantId left right)
    (hleft : AvoidsScopedIds sha256 tenantId left)
    (hright : AvoidsScopedIds sha256 tenantId right) :
    TenantIsolated sha256 maximumStateTtlSeconds state tenantId left right := by
  -- the keys that the tenant's own requests read
  let keys : JsString → Prop := fun key =>
    ∃ own ∈ left.filter (ofTenant sha256 tenantId),
      key = own.resultId ∨ key = scopedStateId sha256 tenantId own.resultId
  have hown : ∀ r, ofTenant sha256 tenantId r = true ↔ r.tenantId sha256 = some tenantId :=
    fun r => by simp [ofTenant]
  have hunwinding : Unwinding (resultRoute sha256 maximumStateTtlSeconds state)
      ResultRequest.now
      (fun r => (ofTenant sha256 tenantId r = true →
          keys (scopedStateId sha256 tenantId r.resultId) ∧ keys r.resultId) ∧
        (ofTenant sha256 tenantId r = false → ∀ t, r.tenantId sha256 = some t →
          ¬ keys (scopedStateId sha256 t r.resultId)))
      (ofTenant sha256 tenantId) (Same keys) :=
    { refl := hlocal.refl keys
      later := hlocal.later
      seen := fun hadmits hvisible hsame =>
        resultRoute_seen hlocal ((hown _).mp hvisible) (hadmits.1 hvisible).1
          (hadmits.1 hvisible).2 hsame
      hidden := fun hadmits hvisible hsame =>
        resultRoute_hidden hlocal (hadmits.2 hvisible) hsame }
  -- a request of another tenant writes none of these keys
  have hforeign : ∀ requests, (∀ r ∈ requests, r ∈ left ++ right) →
      AvoidsScopedIds sha256 tenantId requests →
      (∀ own ∈ left.filter (ofTenant sha256 tenantId), own ∈ requests) →
      ∀ r ∈ requests, ofTenant sha256 tenantId r = false → ∀ t, r.tenantId sha256 = some t →
        ¬ keys (scopedStateId sha256 t r.resultId) := by
    rintro requests hsub havoids hin r hr hr_other t ht ⟨own, hmem, hkey | hkey⟩
    · refine havoids own (hin own hmem) (List.mem_filter.mp hmem).2 r hr hr_other ?_
      rw [scopedResultId_eq ht, hkey]
    · have hne : t ≠ tenantId := by
        rintro rfl
        rw [(hown r).mpr ht] at hr_other
        cases hr_other
      exact scopedStateId_ne h (hsub own (hin own hmem)) (hsub r hr)
        ((hown own).mp (List.mem_filter.mp hmem).2) ht hne hkey
  have hkeys : ∀ r ∈ left.filter (ofTenant sha256 tenantId),
      keys (scopedStateId sha256 tenantId r.resultId) ∧ keys r.resultId :=
    fun r hr => ⟨⟨r, hr, Or.inr rfl⟩, ⟨r, hr, Or.inl rfl⟩⟩
  refine hunwinding.noninterference (fun r hr => ⟨fun hvisible => ?_, ?_⟩)
    (fun r hr => ⟨fun hvisible => ?_, ?_⟩) h.clock_left h.clock_right h.own
  · exact hkeys r (List.mem_filter.mpr ⟨hr, hvisible⟩)
  · exact hforeign left (fun _ => List.mem_append_left right) hleft
      (fun own hmem => (List.mem_filter.mp hmem).1) r hr
  · exact hkeys r (h.own ▸ List.mem_filter.mpr ⟨hr, hvisible⟩)
  · exact hforeign right (fun _ => List.mem_append_right left) hright
      (fun own hmem => (List.mem_filter.mp (h.own ▸ hmem)).1) r hr

end Tenants

structure ResultStateIsolated (sha256 : JsString → JsString) (keyPrefix : JsString)
    (maximumStateTtlSeconds : Nat) (tenantId : JsString) (left right : List ResultRequest) :
    Prop where
  inMemory : TenantIsolated sha256 maximumStateTtlSeconds inMemoryResultState tenantId left right
  redis : TenantIsolated sha256 maximumStateTtlSeconds (redisResultState keyPrefix) tenantId
    left right
  postgres : TenantIsolated sha256 maximumStateTtlSeconds postgresResultState tenantId left right

/-! ## Two tenants -/

namespace TwoTenants

def tenantA : JsString := js "sha256:hI6WVftNlaWyFjDgnSbruGRajkrKjHExFuFTKbQROZk"

def tenantB : JsString := js "sha256:uGl5FqR7kY8J2tBisK97f2YK4nSXJJXInO7W2OEbieg"

/-- The scoped id of result `r1` of the first tenant. -/
def scopedA : JsString := js "sha256:2FnOOYxWQ781Q1DnEaB8ZxoGiGOvM2eHugI1rReUZEM"

/-- SHA-256 on the preimages of the requests below; other texts get the digest
of the empty one. -/
def sha256 (text : JsString) : JsString :=
  if text = tenantStatePreimage ⟨none, js "tenant-a"⟩ then tenantA
  else if text = tenantStatePreimage ⟨none, js "tenant-b"⟩ then tenantB
  else if text = scopedStatePreimage tenantA (js "r1") then scopedA
  else if text = scopedStatePreimage tenantB (js "r1") then
    js "sha256:WXaa1CLHu1exZVlXG8nchbuMTEDqPesyctVwbgZ5ET8"
  else if text = scopedStatePreimage tenantB scopedA then
    js "sha256:APnxqc6QBQGiOxFiH0Pom9mpzN_FUuq3P6VVIhw2tsA"
  else js "sha256:47DEQpj8HBSa-_TImW-5JCeuQeRkm5NMpJWZG3hSuFU"

theorem isSha256Digest_sha256 (text : JsString) : isSha256Digest (sha256 text) := by
  unfold sha256
  split_ifs <;> decide

def consumption (subject : String) (resultId : JsString) (now : Instant) : ResultRequest :=
  ⟨resultId, .principal ⟨none, js subject⟩, .consume (some ⟨some 1000⟩), now, now⟩

end TwoTenants

/--
A tenant that sends the scoped id of another tenant's result as its own result
id is answered from that result.
-/
theorem resultState_not_isolated :
    ∃ (sha256 : JsString → JsString) (keyPrefix : JsString) (maximumStateTtlSeconds : Nat)
      (tenantId : JsString) (left right : List ResultRequest),
      DifferInOthers sha256 tenantId left right ∧
      ¬ ResultStateIsolated sha256 keyPrefix maximumStateTtlSeconds tenantId left right := by
  refine ⟨TwoTenants.sha256, js "x424", 900, TwoTenants.tenantB,
    [TwoTenants.consumption "tenant-a" (js "r1") 0,
      TwoTenants.consumption "tenant-b" TwoTenants.scopedA 1],
    [TwoTenants.consumption "tenant-b" TwoTenants.scopedA 1],
    ⟨by decide +kernel, by decide +kernel, by decide +kernel, TwoTenants.isSha256Digest_sha256,
      by decide +kernel⟩,
    fun h => ?_⟩
  have hview := h.inMemory (Cells.empty, Cells.empty)
  exact absurd hview (by decide +kernel)

theorem resultState_isolated (sha256 : JsString → JsString) (keyPrefix : JsString)
    (maximumStateTtlSeconds : Nat) {tenantId : JsString} {left right : List ResultRequest}
    (h : DifferInOthers sha256 tenantId left right)
    (hleft : AvoidsScopedIds sha256 tenantId left)
    (hright : AvoidsScopedIds sha256 tenantId right) :
    ResultStateIsolated sha256 keyPrefix maximumStateTtlSeconds tenantId left right where
  inMemory := tenantIsolated_of_keyLocal inMemoryResultState_keyLocal _ h hleft hright
  redis := tenantIsolated_of_keyLocal (redisResultState_keyLocal keyPrefix) _ h hleft hright
  postgres := tenantIsolated_of_keyLocal postgresResultState_keyLocal _ h hleft hright

theorem resultState_isolated_twoTenants :
    ResultStateIsolated TwoTenants.sha256 (js "x424") 900 TwoTenants.tenantB
      [TwoTenants.consumption "tenant-a" (js "r1") 0,
        TwoTenants.consumption "tenant-b" (js "r1") 1]
      [TwoTenants.consumption "tenant-b" (js "r1") 1] :=
  resultState_isolated TwoTenants.sha256 (js "x424") 900
    ⟨by decide +kernel, by decide +kernel, by decide +kernel, TwoTenants.isSha256Digest_sha256,
      by decide +kernel⟩
    (by decide +kernel) (by decide +kernel)

end X424
