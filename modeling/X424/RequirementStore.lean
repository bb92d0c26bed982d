import X424.Foundation.Table
import X424.Postgres
import X424.Redis

/-!
# Requirement stores

The three implementations of `TenantIsolatedRequirementStore`.  A stored
requirement may belong to a tenant; `put` is `putForTenant` without one.

Here a store holds what the checks use of a requirement.  Redis and PostgreSQL
keep its JSON and put what they read through the schema again: those stores are
in `X424.RequirementTexts`, and `X424.RequirementReadings` says when the
answers are the same.
-/

namespace X424

open Foundation

structure StoredRequirement where
  requirement : HumanRequirement
  tenantId : Option JsString
  deriving DecidableEq, Repr

structure RequirementStore (ρ : Type) where
  empty : ρ
  putFor : (requirement : HumanRequirement) → (tenantId : Option JsString) →
    (now : Instant) → ρ → Except JsError Unit × ρ
  get : (dependencyId : JsString) → (checkedAt now : Instant) →
    ρ → Except JsError (Option HumanRequirement) × ρ
  getForTenant : (dependencyId tenantId : JsString) → (checkedAt now : Instant) →
    ρ → Except JsError (Option HumanRequirement) × ρ
  delete : (dependencyId : JsString) → (now : Instant) → ρ → Except JsError Unit × ρ
  deleteForTenant : (dependencyId tenantId : JsString) → (now : Instant) →
    ρ → Except JsError Bool × ρ

/-- A call on a store; `put` is `putFor` without a tenant. -/
inductive RequirementRequest where
  | putFor (requirement : HumanRequirement) (tenantId : Option JsString)
  | get (dependencyId : JsString)
  | getForTenant (dependencyId tenantId : JsString)
  | delete (dependencyId : JsString)
  | deleteForTenant (dependencyId tenantId : JsString)
  deriving DecidableEq, Repr

inductive RequirementReply where
  | stored (reply : Except JsError Unit)
  | found (reply : Except JsError (Option HumanRequirement))
  | deleted (reply : Except JsError Unit)
  | deletedForTenant (reply : Except JsError Bool)
  deriving DecidableEq

/-- The call that is made at `now` and answered at once. -/
def RequirementStore.answer {ρ : Type} (store : RequirementStore ρ) (now : Instant)
    (request : RequirementRequest) (s : ρ) : RequirementReply × ρ :=
  match request with
  | .putFor requirement tenantId => (store.putFor requirement tenantId now s).map .stored id
  | .get dependencyId => (store.get dependencyId now now s).map .found id
  | .getForTenant dependencyId tenantId =>
      (store.getForTenant dependencyId tenantId now now s).map .found id
  | .delete dependencyId => (store.delete dependencyId now s).map .deleted id
  | .deleteForTenant dependencyId tenantId =>
      (store.deleteForTenant dependencyId tenantId now s).map .deletedForTenant id

def isControlUnit (u : UInt16) : Bool := u ≤ 0x1F || u == 0x7F

/-- The texts that `assertTenantId` lets pass. -/
def isTenantId (tenantId : JsString) : Bool :=
  !tenantId.isEmpty && tenantId.length ≤ 512 && !tenantId.any isControlUnit

def invalidTenantId : JsError := ⟨js "Invalid requirement tenant ID"⟩

namespace StoredRequirement

def dependencyId (stored : StoredRequirement) : JsString := stored.requirement.dependencyId

/-- `Date.parse(requirement.expiresAt) <= now.getTime()`. -/
def expired (stored : StoredRequirement) (now : Instant) : Bool :=
  parsedLe stored.requirement.expiresAt now

end StoredRequirement

/-! ## In memory -/

abbrev RequirementEntries := Table StoredRequirement.dependencyId

namespace InMemoryRequirementStore

def prune (now : Instant) (entries : RequirementEntries) : RequirementEntries :=
  entries.filter fun stored => !stored.expired now

def putFor (maximumEntries : Nat) (requirement : HumanRequirement)
    (tenantId : Option JsString) (now : Instant) (entries : RequirementEntries) :
    Except JsError Unit × RequirementEntries :=
  if !tenantId.all isTenantId then (.error invalidTenantId, entries)
  else
    let entries := prune now entries
    let stored : StoredRequirement := ⟨requirement, tenantId⟩
    if (entries.find requirement.dependencyId).isSome then
      (.error ⟨js "Dependency ID already exists"⟩, entries)
    else if maximumEntries ≤ entries.size then
      (.error ⟨js "Requirement store is full"⟩, entries)
    else if stored.expired now then
      (.error ⟨js "Cannot store an expired human requirement"⟩, entries)
    else (.ok (), entries.put stored)

/-- `#getEntry`, which drops an entry that it finds expired. -/
def getEntry (dependencyId : JsString) (now : Instant) (entries : RequirementEntries) :
    Option StoredRequirement × RequirementEntries :=
  match entries.find dependencyId with
  | none => (none, entries)
  | some stored =>
      if stored.expired now then (none, entries.erase dependencyId)
      else (some stored, entries)

def get (dependencyId : JsString) (checkedAt _now : Instant) (entries : RequirementEntries) :
    Except JsError (Option HumanRequirement) × RequirementEntries :=
  let found := getEntry dependencyId checkedAt entries
  (.ok (found.1.map StoredRequirement.requirement), found.2)

def getForTenant (dependencyId tenantId : JsString) (checkedAt _now : Instant)
    (entries : RequirementEntries) :
    Except JsError (Option HumanRequirement) × RequirementEntries :=
  if !isTenantId tenantId then (.error invalidTenantId, entries)
  else
    let found := getEntry dependencyId checkedAt entries
    let own := found.1.filter fun stored => stored.tenantId = some tenantId
    (.ok (own.map StoredRequirement.requirement), found.2)

def delete (dependencyId : JsString) (_now : Instant) (entries : RequirementEntries) :
    Except JsError Unit × RequirementEntries :=
  (.ok (), entries.erase dependencyId)

def deleteForTenant (dependencyId tenantId : JsString) (now : Instant)
    (entries : RequirementEntries) : Except JsError Bool × RequirementEntries :=
  if !isTenantId tenantId then (.error invalidTenantId, entries)
  else
    let found := getEntry dependencyId now entries
    if found.1.any fun stored => stored.tenantId = some tenantId then
      (.ok true, found.2.erase dependencyId)
    else (.ok false, found.2)

end InMemoryRequirementStore

def inMemoryRequirementStore (maximumEntries : Nat) : RequirementStore RequirementEntries where
  empty := Table.empty
  putFor := InMemoryRequirementStore.putFor maximumEntries
  get := InMemoryRequirementStore.get
  getForTenant := InMemoryRequirementStore.getForTenant
  delete := InMemoryRequirementStore.delete
  deleteForTenant := InMemoryRequirementStore.deleteForTenant

/-! ## Redis -/

namespace RedisX424Store

variable (keyPrefix : JsString)

abbrev requirementKey (dependencyId : JsString) : JsString :=
  redisKey keyPrefix (js "requirement") dependencyId

def putRequirement (requirement : HumanRequirement) (tenantId : Option JsString)
    (now : Instant) (db : RedisTable StoredRequirement) :
    Except JsError Unit × RedisTable StoredRequirement :=
  if !tenantId.all isTenantId then (.error invalidTenantId, db)
  else
    setOnce keyPrefix (js "requirement") requirement.dependencyId
      (⟨requirement, tenantId⟩ : StoredRequirement) requirement.expiresAt now
      (js "Dependency ID already exists") db

def deleteRequirement (dependencyId : JsString) (_now : Instant)
    (db : RedisTable StoredRequirement) : Except JsError Unit × RedisTable StoredRequirement :=
  if dependencyId.isEmpty then (.error ⟨js "x424 store ID is required"⟩, db)
  else (.ok (), db.erase (requirementKey keyPrefix dependencyId))

/-- The value under the key, unless the caller's time is past its expiry: it is
then deleted. -/
def readRequirement (dependencyId : JsString) (checkedAt now : Instant)
    (db : RedisTable StoredRequirement) :
    Except JsError (Option StoredRequirement) × RedisTable StoredRequirement :=
  if dependencyId.isEmpty then (.error ⟨js "x424 store ID is required"⟩, db)
  else
    match db.get now (requirementKey keyPrefix dependencyId) with
    | none => (.ok none, db)
    | some stored =>
        if stored.expired checkedAt then
          (.ok none, db.erase (requirementKey keyPrefix dependencyId))
        else (.ok (some stored), db)

def getRequirement (dependencyId : JsString) (checkedAt now : Instant)
    (db : RedisTable StoredRequirement) :
    Except JsError (Option HumanRequirement) × RedisTable StoredRequirement :=
  match readRequirement keyPrefix dependencyId checkedAt now db with
  | (.ok found, db) => (.ok (found.map StoredRequirement.requirement), db)
  | (.error error, db) => (.error error, db)

def getRequirementForTenant (dependencyId tenantId : JsString) (checkedAt now : Instant)
    (db : RedisTable StoredRequirement) :
    Except JsError (Option HumanRequirement) × RedisTable StoredRequirement :=
  if !isTenantId tenantId then (.error invalidTenantId, db)
  else
    match readRequirement keyPrefix dependencyId checkedAt now db with
    | (.ok found, db) =>
        let own := found.filter fun stored => stored.tenantId = some tenantId
        (.ok (own.map StoredRequirement.requirement), db)
    | (.error error, db) => (.error error, db)

/-- The `GET` and the compare-and-delete script in one step. -/
def deleteRequirementForTenant (dependencyId tenantId : JsString) (now : Instant)
    (db : RedisTable StoredRequirement) : Except JsError Bool × RedisTable StoredRequirement :=
  if !isTenantId tenantId then (.error invalidTenantId, db)
  else if dependencyId.isEmpty then (.error ⟨js "x424 store ID is required"⟩, db)
  else
    match db.get now (requirementKey keyPrefix dependencyId) with
    | none => (.ok false, db)
    | some stored =>
        if stored.tenantId ≠ some tenantId ∨ stored.expired now then (.ok false, db)
        else (.ok true, db.erase (requirementKey keyPrefix dependencyId))

def requirements : RequirementStore (RedisTable StoredRequirement) where
  empty := Cells.empty
  putFor := putRequirement keyPrefix
  get := getRequirement keyPrefix
  getForTenant := getRequirementForTenant keyPrefix
  delete := deleteRequirement keyPrefix
  deleteForTenant := deleteRequirementForTenant keyPrefix

end RedisX424Store

/-! ## PostgreSQL -/

/-- `Date.parse(String(date))`: the text of a `Date` has no milliseconds. -/
def dateStringMs (ms : Instant) : Instant := ms - ms % 1000

theorem dateStringMs_le (ms : Instant) : dateStringMs ms ≤ ms :=
  Int.sub_le_self ms (Int.emod_nonneg ms (by decide))

namespace PostgresX424Store

def putRequirement (requirement : HumanRequirement) (tenantId : Option JsString)
    (_now : Instant) (rows : Cells JsString StoredRequirement) :
    Except JsError Unit × Cells JsString StoredRequirement :=
  if !tenantId.all isTenantId then (.error invalidTenantId, rows)
  else
    match requirement.expiresAt with
    | none => (.error invalidTimestamptz, rows)
    | some expiresAtMs =>
        match insertOnConflictDoNothing rows requirement.dependencyId
            ⟨⟨requirement, tenantId⟩, expiresAtMs⟩ with
        | (true, rows) => (.ok (), rows)
        | (false, rows) => (.error ⟨js "Dependency ID already exists"⟩, rows)

/-- The row under the id, unless the text of its `expires_at` is past: it is
then deleted. -/
def readRequirement (dependencyId : JsString) (row : Option (Cell StoredRequirement))
    (checkedAt : Instant) (rows : Cells JsString StoredRequirement) :
    Except JsError (Option HumanRequirement) × Cells JsString StoredRequirement :=
  match row with
  | none => (.ok none, rows)
  | some row =>
      if dateStringMs row.expiresAt ≤ checkedAt then (.ok none, rows.erase dependencyId)
      else (.ok (some row.value.requirement), rows)

def getRequirement (dependencyId : JsString) (checkedAt _now : Instant)
    (rows : Cells JsString StoredRequirement) :
    Except JsError (Option HumanRequirement) × Cells JsString StoredRequirement :=
  readRequirement dependencyId (rows dependencyId) checkedAt rows

def getRequirementForTenant (dependencyId tenantId : JsString) (checkedAt _now : Instant)
    (rows : Cells JsString StoredRequirement) :
    Except JsError (Option HumanRequirement) × Cells JsString StoredRequirement :=
  if !isTenantId tenantId then (.error invalidTenantId, rows)
  else
    let row := (rows dependencyId).filter fun row => row.value.tenantId = some tenantId
    readRequirement dependencyId row checkedAt rows

def deleteRequirement (dependencyId : JsString) (_now : Instant)
    (rows : Cells JsString StoredRequirement) :
    Except JsError Unit × Cells JsString StoredRequirement :=
  (.ok (), rows.erase dependencyId)

def deleteRequirementForTenant (dependencyId tenantId : JsString) (now : Instant)
    (rows : Cells JsString StoredRequirement) :
    Except JsError Bool × Cells JsString StoredRequirement :=
  if !isTenantId tenantId then (.error invalidTenantId, rows)
  else
    match rows dependencyId with
    | none => (.ok false, rows)
    | some row =>
        if row.value.tenantId = some tenantId ∧ now < row.expiresAt then
          (.ok true, rows.erase dependencyId)
        else (.ok false, rows)

def requirements : RequirementStore (Cells JsString StoredRequirement) where
  empty := Cells.empty
  putFor := putRequirement
  get := getRequirement
  getForTenant := getRequirementForTenant
  delete := deleteRequirement
  deleteForTenant := deleteRequirementForTenant

end PostgresX424Store

end X424
