import X424.Foundation.Expiring
import X424.Types

/-!
# Nonce and result stores kept in process memory

The interfaces of `types.ts` are records of operations over a state type; a
call is one atomic step that returns an answer, or an error, and the next
state.  `now` is the clock at that step; `checkedAt` is the time that the
caller passes, which it read earlier.  The in-memory stores of
`nonce-store.ts` are the first instances; the Redis and PostgreSQL ones have
modules of their own.
-/

namespace X424

open Foundation

structure NonceStore (σ : Type) where
  empty : σ
  put : (dependencyId nonce : JsString) → (expiresAt : IsoTimestamp) → (now : Instant) →
    σ → Except JsError Unit × σ
  consume : (dependencyId nonce : JsString) → (checkedAt now : Instant) →
    σ → Except JsError Bool × σ

/-- `ResultReplayStore` with the legacy-aware extension, which is called without
a time: it reads the clock itself. -/
structure ResultReplayStore (σ : Type) where
  empty : σ
  consume : (resultId : JsString) → (expiresAt : IsoTimestamp) → (checkedAt now : Instant) →
    σ → Except JsError Bool × σ
  consumeWithLegacy : (resultId legacyResultId : JsString) → (expiresAt : IsoTimestamp) →
    (now : Instant) → σ → Except JsError Bool × σ

/-- `ResultAcceptanceStore` with the legacy-aware extension. -/
structure ResultAcceptanceStore (σ : Type) where
  empty : σ
  accept : (input : ResultAcceptanceInput) → (checkedAt now : Instant) →
    σ → Except JsError ResultAcceptanceStatus × σ
  acceptWithLegacy : (input : ResultAcceptanceInput) → (legacyResultId : JsString) →
    (now : Instant) → σ → Except JsError ResultAcceptanceStatus × σ

/-! ## Dependency nonces -/

structure NonceEntry where
  nonce : JsString
  expiresAtMs : Instant
  used : Bool
  deriving DecidableEq, Repr

abbrev NonceEntries := JsString → Option NonceEntry

namespace InMemoryNonceStore

def put (dependencyId nonce : JsString) (expiresAt : IsoTimestamp) (_now : Instant)
    (entries : NonceEntries) : Except JsError Unit × NonceEntries :=
  match expiresAt with
  | none => (.error ⟨js "Invalid nonce entry"⟩, entries)
  | some expiresAtMs =>
      if dependencyId.isEmpty || nonce.isEmpty then
        (.error ⟨js "Invalid nonce entry"⟩, entries)
      else if (entries dependencyId).isSome then
        (.error ⟨js "Dependency ID already exists"⟩, entries)
      else
        (.ok (), Function.update entries dependencyId (some ⟨nonce, expiresAtMs, false⟩))

/-- A consumed entry stays in the map with `used` set. -/
def consume (dependencyId nonce : JsString) (checkedAt _now : Instant)
    (entries : NonceEntries) : Except JsError Bool × NonceEntries :=
  match entries dependencyId with
  | none => (.ok false, entries)
  | some entry =>
      if entry.used || entry.nonce != nonce || entry.expiresAtMs ≤ checkedAt then
        (.ok false, entries)
      else
        (.ok true, Function.update entries dependencyId (some { entry with used := true }))

end InMemoryNonceStore

def inMemoryNonceStore : NonceStore NonceEntries where
  empty := fun _ => none
  put := InMemoryNonceStore.put
  consume := InMemoryNonceStore.consume

/-! ## Result replay -/

namespace InMemoryResultReplayStore

def consume (resultId : JsString) (expiresAt : IsoTimestamp) (checkedAt _now : Instant)
    (used : Cells JsString Unit) : Except JsError Bool × Cells JsString Unit :=
  match expiresAt with
  | none => (.ok false, used)
  | some expiresAtMs =>
      if resultId.isEmpty || expiresAtMs ≤ checkedAt then (.ok false, used)
      else
        let used := used.prune checkedAt
        if (used resultId).isSome then (.ok false, used)
        else (.ok true, used.put resultId ⟨(), expiresAtMs⟩)

def consumeWithLegacy (resultId legacyResultId : JsString) (expiresAt : IsoTimestamp)
    (now : Instant) (used : Cells JsString Unit) :
    Except JsError Bool × Cells JsString Unit :=
  match expiresAt with
  | none => (.ok false, used)
  | some expiresAtMs =>
      if resultId.isEmpty || legacyResultId.isEmpty || expiresAtMs ≤ now then
        (.ok false, used)
      else
        let used := used.prune now
        if (used legacyResultId).isSome || (used resultId).isSome then (.ok false, used)
        else (.ok true, used.put resultId ⟨(), expiresAtMs⟩)

end InMemoryResultReplayStore

def inMemoryResultReplayStore : ResultReplayStore (Cells JsString Unit) where
  empty := Cells.empty
  consume := InMemoryResultReplayStore.consume
  consumeWithLegacy := InMemoryResultReplayStore.consumeWithLegacy

/-! ## Result acceptance -/

/-- What an acceptance entry records of the operation that claimed the result. -/
structure AcceptedOperation where
  operationId : JsString
  requestDigest : JsString
  deriving DecidableEq, Repr

def ResultAcceptanceInput.operation (input : ResultAcceptanceInput) : AcceptedOperation :=
  ⟨input.operationId, input.requestDigest⟩

/-- The shape checks that `accept` and `acceptWithLegacy` of every backend share. -/
def ResultAcceptanceInput.wellFormed (input : ResultAcceptanceInput) : Bool :=
  !input.resultId.isEmpty && input.resultId.length ≤ 200 &&
    !input.operationId.isEmpty && input.operationId.length ≤ 512 &&
    isSha256Digest input.requestDigest

def wellFormedLegacyId (legacyResultId : JsString) : Bool :=
  !legacyResultId.isEmpty && legacyResultId.length ≤ 200

/-- The answer to an operation when its result is already claimed by `existing`. -/
def AcceptedOperation.statusFor (existing operation : AcceptedOperation) :
    ResultAcceptanceStatus :=
  if existing.operationId = operation.operationId ∧
      existing.requestDigest = operation.requestDigest then
    .sameOperation
  else .replay

namespace InMemoryResultAcceptanceStore

def accept (input : ResultAcceptanceInput) (checkedAt _now : Instant)
    (accepted : Cells JsString AcceptedOperation) :
    Except JsError ResultAcceptanceStatus × Cells JsString AcceptedOperation :=
  match input.expiresAt with
  | none => (.ok .replay, accepted)
  | some expiresAtMs =>
      if !input.wellFormed || expiresAtMs ≤ checkedAt then (.ok .replay, accepted)
      else
        let accepted := accepted.prune checkedAt
        match accepted input.resultId with
        | some existing => (.ok (existing.value.statusFor input.operation), accepted)
        | none => (.ok .new, accepted.put input.resultId ⟨input.operation, expiresAtMs⟩)

def acceptWithLegacy (input : ResultAcceptanceInput) (legacyResultId : JsString)
    (now : Instant) (accepted : Cells JsString AcceptedOperation) :
    Except JsError ResultAcceptanceStatus × Cells JsString AcceptedOperation :=
  match input.expiresAt with
  | none => (.ok .replay, accepted)
  | some expiresAtMs =>
      if !input.wellFormed || !wellFormedLegacyId legacyResultId || expiresAtMs ≤ now then
        (.ok .replay, accepted)
      else
        let accepted := accepted.prune now
        match (accepted legacyResultId).or (accepted input.resultId) with
        | some existing => (.ok (existing.value.statusFor input.operation), accepted)
        | none => (.ok .new, accepted.put input.resultId ⟨input.operation, expiresAtMs⟩)

end InMemoryResultAcceptanceStore

def inMemoryResultAcceptanceStore :
    ResultAcceptanceStore (Cells JsString AcceptedOperation) where
  empty := Cells.empty
  accept := InMemoryResultAcceptanceStore.accept
  acceptWithLegacy := InMemoryResultAcceptanceStore.acceptWithLegacy

@[simp] theorem AcceptedOperation.statusFor_self (operation : AcceptedOperation) :
    operation.statusFor operation = .sameOperation := by
  simp [statusFor]

theorem AcceptedOperation.statusFor_eq (existing operation : AcceptedOperation) :
    existing.statusFor operation =
      if existing = operation then .sameOperation else .replay := by
  cases existing
  cases operation
  simp [statusFor]

end X424
