import X424.NonceStore

/-!
# PostgreSQL state

A table with a primary key is a map from keys to rows.  Rows leave it only
through `DELETE`: a row past its `expires_at` is still there and still takes
part in conflicts.  Each statement is one atomic step here; what concurrent
statements can observe of one another is the subject of
`X424.Foundation.ReadCommitted`.  Text parameters reach the server unchanged:
they hold no NUL, which a `text` refuses, and no unpaired surrogate.
-/

namespace X424

open Foundation

/-- The error a query with an unreadable `timestamptz` parameter fails with. -/
def invalidTimestamptz : JsError :=
  ⟨js "invalid input syntax for type timestamp with time zone"⟩

/-- `INSERT ... ON CONFLICT DO NOTHING RETURNING`; the answer says whether a row came back. -/
def insertOnConflictDoNothing {ν : Type} (rows : Cells JsString ν) (key : JsString)
    (row : Cell ν) : Bool × Cells JsString ν :=
  if (rows key).isSome then (false, rows) else (true, rows.put key row)

namespace PostgresX424Store

/-! ## Dependency nonces -/

def putNonce (dependencyId nonce : JsString) (expiresAt : IsoTimestamp) (_now : Instant)
    (rows : Cells JsString JsString) : Except JsError Unit × Cells JsString JsString :=
  if nonce.isEmpty then (.error ⟨js "Invalid nonce entry"⟩, rows)
  else
    match expiresAt with
    | none => (.error invalidTimestamptz, rows)
    | some expiresAtMs =>
        match insertOnConflictDoNothing rows dependencyId ⟨nonce, expiresAtMs⟩ with
        | (true, rows) => (.ok (), rows)
        | (false, rows) => (.error ⟨js "Dependency ID already exists"⟩, rows)

/-- `DELETE ... WHERE dependency_id = $1 AND nonce = $2 AND expires_at > NOW()`. -/
def consumeNonce (dependencyId nonce : JsString) (_checkedAt now : Instant)
    (rows : Cells JsString JsString) : Except JsError Bool × Cells JsString JsString :=
  match rows dependencyId with
  | none => (.ok false, rows)
  | some row =>
      if row.value = nonce ∧ now < row.expiresAt then
        (.ok true, rows.erase dependencyId)
      else (.ok false, rows)

/-! ## Result replay -/

def consumeResult (resultId : JsString) (expiresAt : IsoTimestamp)
    (checkedAt _now : Instant) (rows : Cells JsString Unit) :
    Except JsError Bool × Cells JsString Unit :=
  if parsedLe expiresAt checkedAt then (.ok false, rows)
  else
    match expiresAt with
    | none => (.error invalidTimestamptz, rows)
    | some expiresAtMs =>
        let reply := insertOnConflictDoNothing rows resultId ⟨(), expiresAtMs⟩
        (.ok reply.1, reply.2)

def consumeResultWithLegacy (resultId legacyResultId : JsString)
    (expiresAt : IsoTimestamp) (now : Instant) (rows : Cells JsString Unit) :
    Except JsError Bool × Cells JsString Unit :=
  if resultId.isEmpty || !wellFormedLegacyId legacyResultId || parsedLe expiresAt now then
    (.ok false, rows)
  else
    match expiresAt with
    | none => (.error invalidTimestamptz, rows)
    | some expiresAtMs =>
        if (rows.live now legacyResultId).isSome then (.ok false, rows)
        else
          let reply := insertOnConflictDoNothing rows resultId ⟨(), expiresAtMs⟩
          (.ok reply.1, reply.2)

/-! ## Result acceptance -/

/--
The statement of `#acceptResult`.  The `SELECT` parts read the table as it was
before the `INSERT` of the same statement.
-/
def acceptResult (input : ResultAcceptanceInput) (checkedAt now : Instant)
    (rows : Cells JsString AcceptedOperation) :
    Except JsError ResultAcceptanceStatus × Cells JsString AcceptedOperation :=
  if !input.wellFormed || parsedLe input.expiresAt checkedAt then (.ok .replay, rows)
  else
    match input.expiresAt with
    | none => (.error invalidTimestamptz, rows)
    | some expiresAtMs =>
        let inserted :=
          insertOnConflictDoNothing rows input.resultId ⟨input.operation, expiresAtMs⟩
        if inserted.1 then (.ok .new, inserted.2)
        else if (rows.live now input.resultId).any fun row => row.value = input.operation then
          (.ok .sameOperation, inserted.2)
        else (.ok .replay, inserted.2)

/-- The statement of `#acceptResultWithLegacy`. -/
def acceptResultWithLegacy (input : ResultAcceptanceInput) (legacyResultId : JsString)
    (now : Instant) (rows : Cells JsString AcceptedOperation) :
    Except JsError ResultAcceptanceStatus × Cells JsString AcceptedOperation :=
  if !input.wellFormed || !wellFormedLegacyId legacyResultId ||
      parsedLe input.expiresAt now then
    (.ok .replay, rows)
  else
    match input.expiresAt with
    | none => (.error invalidTimestamptz, rows)
    | some expiresAtMs =>
        let legacy := rows.live now legacyResultId
        let inserted :=
          if legacy.isSome then (false, rows)
          else insertOnConflictDoNothing rows input.resultId ⟨input.operation, expiresAtMs⟩
        if inserted.1 then (.ok .new, inserted.2)
        else if (legacy.any fun row => row.value = input.operation) ||
            (rows.live now input.resultId).any fun row => row.value = input.operation then
          (.ok .sameOperation, inserted.2)
        else (.ok .replay, inserted.2)

def nonces : NonceStore (Cells JsString JsString) where
  empty := Cells.empty
  put := putNonce
  consume := consumeNonce

def results : ResultReplayStore (Cells JsString Unit) where
  empty := Cells.empty
  consume := consumeResult
  consumeWithLegacy := consumeResultWithLegacy

def resultAcceptances : ResultAcceptanceStore (Cells JsString AcceptedOperation) where
  empty := Cells.empty
  accept := acceptResult
  acceptWithLegacy := acceptResultWithLegacy

end PostgresX424Store

end X424
