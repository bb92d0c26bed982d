import X424.Foundation.Table
import X424.Handoff.Record
import X424.Redis

/-!
# The handoff stores

`HandoffStore` and its three implementations.  A `getAuthorized` of the Redis
or PostgreSQL store reads, and when the record has expired goes on to an
`update` and back to the read when that one is lost; `fetch` is the read, and
the update is left to the caller.
-/

namespace X424

open Foundation

/-- What one read of `getAuthorized` comes to. -/
inductive Fetched where
  | unknown
  | found (record : StoredHumanHandoff)
  /-- The read itself has stored this record in place of one that has expired. -/
  | expired (record : StoredHumanHandoff)
  | expiring (record : StoredHumanHandoff)
  | failed (error : JsError)
  deriving DecidableEq, Repr

/-- `checkedAt` is a time that the caller or the store has read before the step
at `now`.  `stored` and `marker` are what a reader finds in the state. -/
structure HandoffStore (σ : Type) where
  empty : σ
  create : (record : StoredHumanHandoff) → (checkedAt now : Instant) →
    σ → Except JsError Bool × σ
  fetch : (handoffId accessTokenDigest : JsString) → (checkedAt now : Instant) → σ → Fetched × σ
  update : (previous next : StoredHumanHandoff) → (checkedAt now : Instant) →
    σ → Except JsError Bool × σ
  stored : (now : Instant) → σ → (handoffId : JsString) → Option StoredHumanHandoff
  marker : (now : Instant) → σ → (dependencyId : JsString) → Option JsString

/-! ## In memory -/

structure InMemoryHandoffs where
  records : JsString → Option StoredHumanHandoff
  activeDependencies : JsString → Option JsString

namespace InMemoryHandoffStore

def create (record : StoredHumanHandoff) (_checkedAt _now : Instant) (s : InMemoryHandoffs) :
    Except JsError Bool × InMemoryHandoffs :=
  if (s.records record.handoffId).isSome ∨
      (s.activeDependencies record.dependencyId).isSome then (.ok false, s)
  else
    (.ok true,
      { records := Function.update s.records record.handoffId (some record)
        activeDependencies :=
          Function.update s.activeDependencies record.dependencyId (some record.handoffId) })

def getAuthorized (handoffId accessTokenDigest : JsString) (checkedAt _now : Instant)
    (s : InMemoryHandoffs) : Fetched × InMemoryHandoffs :=
  match s.records handoffId with
  | none => (.unknown, s)
  | some record =>
      if record.accessTokenDigest ≠ accessTokenDigest then (.unknown, s)
      else if record.expiresAt ≤ checkedAt ∧ record.status.terminal = false then
        (.expired record.expire,
          { records := Function.update s.records handoffId (some record.expire)
            activeDependencies :=
              Function.update s.activeDependencies record.dependencyId none })
      else (.found record, s)

def update (previous next : StoredHumanHandoff) (_checkedAt _now : Instant)
    (s : InMemoryHandoffs) : Except JsError Bool × InMemoryHandoffs :=
  match s.records previous.handoffId with
  | none => (.ok false, s)
  | some current =>
      if current.version ≠ previous.version ∨
          current.accessTokenDigest ≠ previous.accessTokenDigest ∨
          next.version ≠ previous.version + 1 then (.ok false, s)
      else
        (.ok true,
          { records := Function.update s.records next.handoffId (some next)
            activeDependencies :=
              if next.status.terminal then
                Function.update s.activeDependencies next.dependencyId none
              else s.activeDependencies })

end InMemoryHandoffStore

def inMemoryHandoffStore : HandoffStore InMemoryHandoffs where
  empty := ⟨fun _ => none, fun _ => none⟩
  create := InMemoryHandoffStore.create
  fetch := InMemoryHandoffStore.getAuthorized
  update := InMemoryHandoffStore.update
  stored _ s := s.records
  marker _ s := s.activeDependencies

/-! ## Redis -/

/-- The keys of the two tables differ, as `recordKey_ne_dependencyKey` says. -/
structure RedisHandoffDb where
  records : RedisTable StoredHumanHandoff
  dependencies : RedisTable JsString

def createHandoffScript (now : Instant) (key dependencyKey : JsString)
    (document : StoredHumanHandoff) (expiresAtMs : Instant) (handoffId : JsString)
    (db : RedisHandoffDb) : Int × RedisHandoffDb :=
  if (db.records.get now key).isSome then (0, db)
  else if (db.dependencies.get now dependencyKey).isSome then (0, db)
  else
    (1,
      { records := db.records.put key ⟨document, expiresAtMs⟩
        dependencies := db.dependencies.put dependencyKey ⟨handoffId, expiresAtMs⟩ })

def updateHandoffScript (now : Instant) (key dependencyKey : JsString)
    (previous next : StoredHumanHandoff) (expiresAtMs : Instant) (terminal : Bool)
    (handoffId : JsString) (db : RedisHandoffDb) : Int × RedisHandoffDb :=
  if db.records.get now key ≠ some previous then (0, db)
  else
    (1,
      { records := db.records.put key ⟨next, expiresAtMs⟩
        dependencies :=
          if terminal then
            if db.dependencies.get now dependencyKey = some handoffId then
              db.dependencies.erase dependencyKey
            else db.dependencies
          else db.dependencies.put dependencyKey ⟨handoffId, expiresAtMs⟩ })

namespace RedisHandoffStore

variable (keyPrefix : JsString)

/-- `#recordKey`. -/
def recordKey (handoffId : JsString) : JsString :=
  redisKey keyPrefix (js "handoff") handoffId

/-- `#dependencyKey`. -/
def dependencyKey (dependencyId : JsString) : JsString :=
  redisKey keyPrefix (js "handoff-dependency") dependencyId

theorem recordKey_ne_dependencyKey (handoffId dependencyId : JsString) :
    recordKey keyPrefix handoffId ≠ dependencyKey keyPrefix dependencyId := by
  intro h
  simp only [recordKey, dependencyKey, redisKey, List.append_assoc] at h
  have hkinds : js "handoff" ++ (js ":" ++ handoffId) =
      js "handoff" ++ (js "-dependency" ++ (js ":" ++ dependencyId)) :=
    List.append_cancel_left (List.append_cancel_left h)
  have hfirst := congrArg List.head? (List.append_cancel_left hkinds)
  have hcolon : (js ":").head? = some 0x3A := by decide +kernel
  have hdash : (js "-dependency").head? = some 0x2D := by decide +kernel
  rw [List.head?_append, List.head?_append, hcolon, hdash] at hfirst
  cases hfirst

def create (record : StoredHumanHandoff) (checkedAt now : Instant) (db : RedisHandoffDb) :
    Except JsError Bool × RedisHandoffDb :=
  if record.expiresAt ≤ checkedAt then (.ok false, db)
  else
    match record.canonicalJson with
    | .error error => (.error error, db)
    | .ok document =>
        let reply := createHandoffScript now (recordKey keyPrefix record.handoffId)
          (dependencyKey keyPrefix record.dependencyId) document record.expiresAt
          record.handoffId db
        (.ok (reply.1 == 1), reply.2)

def getAuthorized (handoffId accessTokenDigest : JsString) (checkedAt now : Instant)
    (db : RedisHandoffDb) : Fetched × RedisHandoffDb :=
  match db.records.get now (recordKey keyPrefix handoffId) with
  | none => (.unknown, db)
  | some value =>
      match parseStoredHumanHandoff value with
      | .error error => (.failed error, db)
      | .ok record =>
          if record.accessTokenDigest ≠ accessTokenDigest then (.unknown, db)
          else if record.expiresAt ≤ checkedAt ∧ record.status.terminal = false then
            (.expiring record, db)
          else (.found record, db)

def update (previous next : StoredHumanHandoff) (checkedAt now : Instant)
    (db : RedisHandoffDb) : Except JsError Bool × RedisHandoffDb :=
  if next.version ≠ previous.version + 1 then (.ok false, db)
  else
    match previous.canonicalJson, next.canonicalJson with
    | .ok previousJson, .ok nextJson =>
        let reply := updateHandoffScript now (recordKey keyPrefix previous.handoffId)
          (dependencyKey keyPrefix previous.dependencyId) previousJson nextJson
          (max (checkedAt + 1000) next.expiresAt) next.status.terminal previous.handoffId db
        (.ok (reply.1 == 1), reply.2)
    | .error error, _ => (.error error, db)
    | _, .error error => (.error error, db)

end RedisHandoffStore

def redisHandoffStore (keyPrefix : JsString) : HandoffStore RedisHandoffDb where
  empty := ⟨Cells.empty, Cells.empty⟩
  create := RedisHandoffStore.create keyPrefix
  fetch := RedisHandoffStore.getAuthorized keyPrefix
  update := RedisHandoffStore.update keyPrefix
  stored now db handoffId := db.records.get now (RedisHandoffStore.recordKey keyPrefix handoffId)
  marker now db dependencyId :=
    db.dependencies.get now (RedisHandoffStore.dependencyKey keyPrefix dependencyId)

/-! ## PostgreSQL -/

/-- A row of `x424_handoffs`.  The columns `status` and `expires_at` are
written, but no statement reads them. -/
structure HandoffRow where
  handoffId : JsString
  dependencyId : JsString
  accessTokenDigest : JsString
  active : Bool
  version : Nat
  document : StoredHumanHandoff
  deriving DecidableEq, Repr

/-- The primary key of `x424_handoffs`. -/
abbrev HandoffRows := Table HandoffRow.handoffId

namespace HandoffRows

/-- A row in the index `x424_handoffs_one_active_dependency`. -/
def activeRow (rows : HandoffRows) (dependencyId : JsString) : Option HandoffRow :=
  rows.rows.find? fun row => row.active && row.dependencyId == dependencyId

end HandoffRows

namespace PostgresHandoffStore

def create (record : StoredHumanHandoff) (_checkedAt _now : Instant) (rows : HandoffRows) :
    Except JsError Bool × HandoffRows :=
  match record.canonicalJson with
  | .error error => (.error error, rows)
  | .ok document =>
      if (rows.find record.handoffId).isSome ∨ (rows.activeRow record.dependencyId).isSome then
        (.ok false, rows)
      else
        (.ok true, rows.put
          { handoffId := record.handoffId
            dependencyId := record.dependencyId
            accessTokenDigest := record.accessTokenDigest
            active := true
            version := record.version
            document := document })

def getAuthorized (handoffId accessTokenDigest : JsString) (checkedAt _now : Instant)
    (rows : HandoffRows) : Fetched × HandoffRows :=
  match (rows.find handoffId).filter fun row => row.accessTokenDigest == accessTokenDigest with
  | none => (.unknown, rows)
  | some row =>
      match parseStoredHumanHandoff row.document with
      | .error error => (.failed error, rows)
      | .ok record =>
          if record.expiresAt ≤ checkedAt ∧ record.status.terminal = false then
            (.expiring record, rows)
          else (.found record, rows)

def update (previous next : StoredHumanHandoff) (_checkedAt _now : Instant)
    (rows : HandoffRows) : Except JsError Bool × HandoffRows :=
  if next.version ≠ previous.version + 1 then (.ok false, rows)
  else
    match next.canonicalJson with
    | .error error => (.error error, rows)
    | .ok document =>
        match (rows.find previous.handoffId).filter fun row =>
            row.accessTokenDigest == previous.accessTokenDigest &&
              row.version == previous.version with
        | none => (.ok false, rows)
        | some row =>
            let active := !next.status.terminal
            let others := rows.erase row.handoffId
            if active ∧ (HandoffRows.activeRow others row.dependencyId).isSome then
              (.error ⟨js "duplicate key value violates unique constraint " ++
                js "\"x424_handoffs_one_active_dependency\""⟩, rows)
            else
              (.ok true,
                rows.put { row with
                  active := active, version := next.version, document := document })

end PostgresHandoffStore

def postgresHandoffStore : HandoffStore HandoffRows where
  empty := Table.empty
  create := PostgresHandoffStore.create
  fetch := PostgresHandoffStore.getAuthorized
  update := PostgresHandoffStore.update
  stored _ rows handoffId := (rows.find handoffId).map HandoffRow.document
  marker _ rows dependencyId := (rows.activeRow dependencyId).map HandoffRow.handoffId

end X424
