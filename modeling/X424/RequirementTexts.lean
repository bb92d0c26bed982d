import X424.RequirementStore
import X424.Schemas.Issuance

/-!
# Stored requirements

What Redis and PostgreSQL keep of a new requirement is a JSON text, which is
read through the schema again.  A process keeps the requirement itself.  The
stores of `X424.RequirementStore` take the parts that the checks use out of
such a requirement, and leave the texts out.
-/

namespace X424

open Foundation

/--
A requirement that was just made.  The material for the providers need not be
plain JSON; `canonicalJson` throws for what is not.
-/
structure NewRequirement where
  document : RequirementDocument
  plain : Bool

def notPlainJson : JsError :=
  ⟨js "Value is not plain JSON; use opaque bytes or an explicit bodyInput kind"⟩

/-- What issuance uses of a `TenantIsolatedRequirementStore`. -/
structure RequirementSink (ρ : Type) where
  putFor : (requirement : NewRequirement) → (tenantId : Option JsString) → (now : Instant) →
    ρ → Except JsError Unit × ρ
  delete : (dependencyId : JsString) → (now : Instant) → ρ → Except JsError Unit × ρ

def inMemoryRequirements (dates : JsDates) (maximumEntries : Nat) :
    RequirementSink RequirementEntries where
  putFor requirement :=
    InMemoryRequirementStore.putFor maximumEntries (requirement.document.read dates)
  delete := InMemoryRequirementStore.delete

/-! ## Stores of documents -/

/-- A `TenantIsolatedRequirementStore`, which returns requirements as they are written. -/
structure DocumentStore (ρ : Type) extends RequirementSink ρ where
  empty : ρ
  get : (dependencyId : JsString) → (checkedAt now : Instant) →
    ρ → Except JsError (Option RequirementDocument) × ρ
  getForTenant : (dependencyId tenantId : JsString) → (checkedAt now : Instant) →
    ρ → Except JsError (Option RequirementDocument) × ρ
  deleteForTenant : (dependencyId tenantId : JsString) → (now : Instant) →
    ρ → Except JsError Bool × ρ

inductive DocumentRequest where
  | putFor (requirement : NewRequirement) (tenantId : Option JsString)
  | get (dependencyId : JsString)
  | getForTenant (dependencyId tenantId : JsString)
  | delete (dependencyId : JsString)
  | deleteForTenant (dependencyId tenantId : JsString)

inductive DocumentReply where
  | stored (reply : Except JsError Unit)
  | found (reply : Except JsError (Option RequirementDocument))
  | deleted (reply : Except JsError Unit)
  | deletedForTenant (reply : Except JsError Bool)

def DocumentStore.answer {ρ : Type} (store : DocumentStore ρ) (now : Instant)
    (request : DocumentRequest) (s : ρ) : DocumentReply × ρ :=
  match request with
  | .putFor requirement tenantId => (store.putFor requirement tenantId now s).map .stored id
  | .get dependencyId => (store.get dependencyId now now s).map .found id
  | .getForTenant dependencyId tenantId =>
      (store.getForTenant dependencyId tenantId now now s).map .found id
  | .delete dependencyId => (store.delete dependencyId now s).map .deleted id
  | .deleteForTenant dependencyId tenantId =>
      (store.deleteForTenant dependencyId tenantId now s).map .deletedForTenant id

/-! ## In memory -/

/-- `InMemoryRequirementEntry`. -/
structure StoredDocument where
  document : RequirementDocument
  tenantId : Option JsString

namespace StoredDocument

def dependencyId (stored : StoredDocument) : JsString := stored.document.dependencyId

/-- `Date.parse(entry.requirement.expiresAt) <= now.getTime()`. -/
def expired (dates : JsDates) (stored : StoredDocument) (now : Instant) : Bool :=
  parsedLe (dates.parse stored.document.expiresAt) now

end StoredDocument

abbrev DocumentEntries := Table StoredDocument.dependencyId

namespace InMemoryRequirementStore

variable (dates : JsDates)

def pruneDocuments (now : Instant) (entries : DocumentEntries) : DocumentEntries :=
  entries.filter fun stored => !stored.expired dates now

def putDocument (maximumEntries : Nat) (requirement : NewRequirement)
    (tenantId : Option JsString) (now : Instant) (entries : DocumentEntries) :
    Except JsError Unit × DocumentEntries :=
  if !tenantId.all isTenantId then (.error invalidTenantId, entries)
  else
    let entries := pruneDocuments dates now entries
    let stored : StoredDocument := ⟨requirement.document, tenantId⟩
    if (entries.find requirement.document.dependencyId).isSome then
      (.error ⟨js "Dependency ID already exists"⟩, entries)
    else if maximumEntries ≤ entries.size then
      (.error ⟨js "Requirement store is full"⟩, entries)
    else if stored.expired dates now then
      (.error ⟨js "Cannot store an expired human requirement"⟩, entries)
    else (.ok (), entries.put stored)

def getDocumentEntry (dependencyId : JsString) (now : Instant) (entries : DocumentEntries) :
    Option StoredDocument × DocumentEntries :=
  match entries.find dependencyId with
  | none => (none, entries)
  | some stored =>
      if stored.expired dates now then (none, entries.erase dependencyId)
      else (some stored, entries)

def getDocument (dependencyId : JsString) (checkedAt _now : Instant)
    (entries : DocumentEntries) :
    Except JsError (Option RequirementDocument) × DocumentEntries :=
  let found := getDocumentEntry dates dependencyId checkedAt entries
  (.ok (found.1.map StoredDocument.document), found.2)

def getDocumentForTenant (dependencyId tenantId : JsString) (checkedAt _now : Instant)
    (entries : DocumentEntries) :
    Except JsError (Option RequirementDocument) × DocumentEntries :=
  if !isTenantId tenantId then (.error invalidTenantId, entries)
  else
    let found := getDocumentEntry dates dependencyId checkedAt entries
    let own := found.1.filter fun stored => stored.tenantId = some tenantId
    (.ok (own.map StoredDocument.document), found.2)

def deleteDocument (dependencyId : JsString) (_now : Instant) (entries : DocumentEntries) :
    Except JsError Unit × DocumentEntries :=
  (.ok (), entries.erase dependencyId)

def deleteDocumentForTenant (dependencyId tenantId : JsString) (now : Instant)
    (entries : DocumentEntries) : Except JsError Bool × DocumentEntries :=
  if !isTenantId tenantId then (.error invalidTenantId, entries)
  else
    let found := getDocumentEntry dates dependencyId now entries
    if found.1.any fun stored => stored.tenantId = some tenantId then
      (.ok true, found.2.erase dependencyId)
    else (.ok false, found.2)

def documentStore (maximumEntries : Nat) : DocumentStore DocumentEntries where
  empty := Table.empty
  putFor := putDocument dates maximumEntries
  get := getDocument dates
  getForTenant := getDocumentForTenant dates
  delete := deleteDocument
  deleteForTenant := deleteDocumentForTenant dates

end InMemoryRequirementStore

/-! ## Redis -/

namespace RedisX424Store

inductive EnvelopeField where
  | requirement
  | tenantId
  | x424RequirementStoreVersion
  deriving DecidableEq

def envelopeShape : ObjectShape EnvelopeField where
  fields := [.requirement, .tenantId, .x424RequirementStoreVersion]
  name
    | .requirement => js "requirement"
    | .tenantId => js "tenantId"
    | .x424RequirementStoreVersion => js "x424RequirementStoreVersion"
  complete := by intro k; cases k <;> decide
  sorted := by decide
  name_ne_proto := by intro k; cases k <;> decide

/-- `StoredRequirementEnvelope`. -/
def requirementEnvelope (requirement : Json) (tenantId : JsString) : Json :=
  envelopeShape.ofFields fun
    | .requirement => some requirement
    | .tenantId => some (.string tenantId)
    | .x424RequirementStoreVersion => some (.number (1 : Nat))

def storedJson (document : RequirementDocument) : Option JsString → Json
  | none => document.toJson
  | some tenantId => requirementEnvelope document.toJson tenantId

section Texts

variable (runtime : Runtime) (keyPrefix : JsString)

def parseStoredRequirement (value : JsString) :
    Except JsError (RequirementDocument × Option JsString) :=
  match jsonParse runtime.numbers value with
  | none => .error ⟨js "SyntaxError"⟩
  | some parsed =>
      if (zLiteralNumber 1 (memberOf (js "x424RequirementStoreVersion") parsed)).isSome then
        match memberOf (js "tenantId") parsed with
        | some (.string tenantId) =>
            if !isTenantId tenantId then .error invalidTenantId
            else
              match memberOf (js "requirement") parsed with
              | some requirement =>
                  (parseHumanRequirement runtime requirement).map fun requirement =>
                    (requirement, some tenantId)
              | none => .error ⟨js "ZodError"⟩
        | _ => .error invalidTenantId
      else (parseHumanRequirement runtime parsed).map fun requirement => (requirement, none)

def putDocument (requirement : NewRequirement) (tenantId : Option JsString) (now : Instant)
    (db : RedisDb) : Except JsError Unit × RedisDb :=
  if !tenantId.all isTenantId then (.error invalidTenantId, db)
  else if !requirement.plain then (.error notPlainJson, db)
  else
    setOnce keyPrefix (js "requirement") requirement.document.dependencyId
      (canonicalJson runtime.numbers (storedJson requirement.document tenantId))
      (runtime.dates.parse requirement.document.expiresAt) now
      (js "Dependency ID already exists") db

def deleteDocument (dependencyId : JsString) (_now : Instant) (db : RedisDb) :
    Except JsError Unit × RedisDb :=
  if dependencyId.isEmpty then (.error ⟨js "x424 store ID is required"⟩, db)
  else (.ok (), db.erase (requirementKey keyPrefix dependencyId))

def getDocument (dependencyId : JsString) (checkedAt now : Instant) (db : RedisDb) :
    Except JsError (Option RequirementDocument) × RedisDb :=
  if dependencyId.isEmpty then (.error ⟨js "x424 store ID is required"⟩, db)
  else
    match db.get now (requirementKey keyPrefix dependencyId) with
    | none => (.ok none, db)
    | some value =>
        match parseStoredRequirement runtime value with
        | .error error => (.error error, db)
        | .ok (requirement, _) =>
            if parsedLe (runtime.dates.parse requirement.expiresAt) checkedAt then
              (.ok none, db.erase (requirementKey keyPrefix dependencyId))
            else (.ok (some requirement), db)

def getDocumentForTenant (dependencyId tenantId : JsString) (checkedAt now : Instant)
    (db : RedisDb) : Except JsError (Option RequirementDocument) × RedisDb :=
  if !isTenantId tenantId then (.error invalidTenantId, db)
  else if dependencyId.isEmpty then (.error ⟨js "x424 store ID is required"⟩, db)
  else
    match db.get now (requirementKey keyPrefix dependencyId) with
    | none => (.ok none, db)
    | some value =>
        match parseStoredRequirement runtime value with
        | .error error => (.error error, db)
        | .ok (requirement, owner) =>
            if parsedLe (runtime.dates.parse requirement.expiresAt) checkedAt then
              (.ok none, db.erase (requirementKey keyPrefix dependencyId))
            else (.ok (if owner = some tenantId then some requirement else none), db)

/-- The `GET` and the compare-and-delete script in one step. -/
def deleteDocumentForTenant (dependencyId tenantId : JsString) (now : Instant) (db : RedisDb) :
    Except JsError Bool × RedisDb :=
  if !isTenantId tenantId then (.error invalidTenantId, db)
  else if dependencyId.isEmpty then (.error ⟨js "x424 store ID is required"⟩, db)
  else
    match db.get now (requirementKey keyPrefix dependencyId) with
    | none => (.ok false, db)
    | some value =>
        match parseStoredRequirement runtime value with
        | .error error => (.error error, db)
        | .ok (requirement, owner) =>
            if owner ≠ some tenantId ∨
                parsedLe (runtime.dates.parse requirement.expiresAt) now then (.ok false, db)
            else (.ok true, db.erase (requirementKey keyPrefix dependencyId))

def documents : RequirementSink RedisDb where
  putFor := putDocument runtime keyPrefix
  delete := deleteDocument keyPrefix

def documentStore : DocumentStore RedisDb where
  toRequirementSink := documents runtime keyPrefix
  empty := Cells.empty
  get := getDocument runtime keyPrefix
  getForTenant := getDocumentForTenant runtime keyPrefix
  deleteForTenant := deleteDocumentForTenant runtime keyPrefix

end Texts

end RedisX424Store

/-! ## PostgreSQL -/

/-- The input function of `jsonb`; it refuses some texts that are JSON. -/
structure Jsonb (numbers : JsNumbers) where
  read : JsString → Option Json
  same : ∀ {text value}, read text = some value →
    ∃ parsed, jsonParse numbers text = some parsed ∧ value.Same parsed

namespace PostgresX424Store

structure RequirementRow where
  document : Json
  ownerId : Option JsString

variable (runtime : Runtime) (jsonb : Jsonb runtime.numbers)

def putDocument (requirement : NewRequirement) (tenantId : Option JsString) (_now : Instant)
    (rows : Cells JsString RequirementRow) : Except JsError Unit × Cells JsString RequirementRow :=
  if !tenantId.all isTenantId then (.error invalidTenantId, rows)
  else if !requirement.plain then (.error notPlainJson, rows)
  else
    match jsonb.read (canonicalJson runtime.numbers requirement.document.toJson),
        runtime.dates.parse requirement.document.expiresAt with
    | none, _ => (.error ⟨js "invalid input syntax for type json"⟩, rows)
    | some _, none => (.error invalidTimestamptz, rows)
    | some document, some expiresAtMs =>
        match insertOnConflictDoNothing rows requirement.document.dependencyId
            ⟨⟨document, tenantId⟩, expiresAtMs⟩ with
        | (true, rows) => (.ok (), rows)
        | (false, rows) => (.error ⟨js "Dependency ID already exists"⟩, rows)

def deleteDocument (dependencyId : JsString) (_now : Instant)
    (rows : Cells JsString RequirementRow) : Except JsError Unit × Cells JsString RequirementRow :=
  (.ok (), rows.erase dependencyId)

def getDocument (dependencyId : JsString) (checkedAt _now : Instant)
    (rows : Cells JsString RequirementRow) :
    Except JsError (Option RequirementDocument) × Cells JsString RequirementRow :=
  match rows dependencyId with
  | none => (.ok none, rows)
  | some row =>
      if dateStringMs row.expiresAt ≤ checkedAt then (.ok none, rows.erase dependencyId)
      else ((parseHumanRequirement runtime row.value.document).map some, rows)

def getDocumentForTenant (dependencyId tenantId : JsString) (checkedAt _now : Instant)
    (rows : Cells JsString RequirementRow) :
    Except JsError (Option RequirementDocument) × Cells JsString RequirementRow :=
  if !isTenantId tenantId then (.error invalidTenantId, rows)
  else
    match (rows dependencyId).filter fun row => row.value.ownerId = some tenantId with
    | none => (.ok none, rows)
    | some row =>
        if dateStringMs row.expiresAt ≤ checkedAt then (.ok none, rows.erase dependencyId)
        else ((parseHumanRequirement runtime row.value.document).map some, rows)

def deleteDocumentForTenant (dependencyId tenantId : JsString) (now : Instant)
    (rows : Cells JsString RequirementRow) : Except JsError Bool × Cells JsString RequirementRow :=
  if !isTenantId tenantId then (.error invalidTenantId, rows)
  else
    match rows dependencyId with
    | none => (.ok false, rows)
    | some row =>
        if row.value.ownerId = some tenantId ∧ now < row.expiresAt then
          (.ok true, rows.erase dependencyId)
        else (.ok false, rows)

def documents : RequirementSink (Cells JsString RequirementRow) where
  putFor := putDocument runtime jsonb
  delete := deleteDocument

def documentStore : DocumentStore (Cells JsString RequirementRow) where
  toRequirementSink := documents runtime jsonb
  empty := Cells.empty
  get := getDocument runtime
  getForTenant := getDocumentForTenant runtime
  deleteForTenant := deleteDocumentForTenant

end PostgresX424Store

/-! ## What the stores hold after a call -/

/-- A refused requirement is not stored, one that is stored is there, and one that is
deleted is not. -/
structure RequirementSink.Holds {ρ : Type} (sink : RequirementSink ρ)
    (holds : ρ → JsString → Prop) : Prop where
  refused : ∀ {s s'} {requirement tenantId now error},
    sink.putFor requirement tenantId now s = (.error error, s') →
      ∀ id, holds s' id → holds s id
  stored : ∀ {s s'} {requirement tenantId now},
    sink.putFor requirement tenantId now s = (.ok (), s') →
      holds s' requirement.document.dependencyId
  deleted : ∀ {s} {dependencyId now}, dependencyId ≠ [] →
    ¬ holds (sink.delete dependencyId now s).2 dependencyId

theorem inMemoryRequirements_holds (dates : JsDates) (maximumEntries : Nat) :
    (inMemoryRequirements dates maximumEntries).Holds
      fun entries id => (entries.find id).isSome := by
  refine ⟨fun {entries entries' requirement tenantId now error} h id hholds => ?_,
    fun {entries entries' requirement tenantId now} h => ?_,
    fun {entries dependencyId now} _ => ?_⟩
  · have hprune : ((InMemoryRequirementStore.prune now entries).find id).isSome →
        (entries.find id).isSome := by
      rw [InMemoryRequirementStore.prune, Table.find_filter]
      cases entries.find id with
      | none => exact fun hkept => hkept
      | some stored => exact fun _ => rfl
    simp only [inMemoryRequirements, InMemoryRequirementStore.putFor] at h
    split_ifs at h <;> cases h
    · exact hholds
    · exact hprune hholds
    · exact hprune hholds
    · exact hprune hholds
  · simp only [inMemoryRequirements, InMemoryRequirementStore.putFor] at h
    split_ifs at h <;> cases h
    have hfound := Table.find_put_same (InMemoryRequirementStore.prune now entries)
      (⟨requirement.document.read dates, tenantId⟩ : StoredRequirement)
    exact Option.isSome_of_eq_some hfound
  · simp only [inMemoryRequirements, InMemoryRequirementStore.delete, Table.find_erase_same]
    exact Bool.false_ne_true

/-- `#setOnce` either fails and changes nothing, or writes the value under a free key. -/
theorem setOnce_cases {ν : Type} (keyPrefix kind id duplicateMessage : JsString) (value : ν)
    (expiresAt : IsoTimestamp) (now : Instant) (db : RedisTable ν) :
    (∃ error, RedisX424Store.setOnce keyPrefix kind id value expiresAt now duplicateMessage db =
      (.error error, db)) ∨
    ∃ expiresAtMs, expiresAt = some expiresAtMs ∧ now < expiresAtMs ∧
      RedisX424Store.setOnce keyPrefix kind id value expiresAt now duplicateMessage db =
        (.ok (), db.put (redisKey keyPrefix kind id) ⟨value, expiresAtMs⟩) := by
  unfold RedisX424Store.setOnce RedisTable.setNx
  split_ifs with hid hlive
  · exact .inl ⟨_, rfl⟩
  · cases futureExpiry expiresAt now <;> exact .inl ⟨_, rfl⟩
  · cases hexpiry : futureExpiry expiresAt now with
    | none => exact .inl ⟨_, rfl⟩
    | some expiresAtMs =>
        obtain ⟨hexpiresAt, hfuture⟩ := Option.filter_eq_some_iff.mp hexpiry
        exact .inr ⟨expiresAtMs, hexpiresAt, of_decide_eq_true hfuture, rfl⟩

namespace RedisX424Store

variable {runtime : Runtime} {keyPrefix : JsString}

theorem putDocument_eq_ok {requirement : NewRequirement} {tenantId : Option JsString}
    {now : Instant} {db db' : RedisDb}
    (h : putDocument runtime keyPrefix requirement tenantId now db = (.ok (), db')) :
    tenantId.all isTenantId = true ∧ requirement.plain = true ∧
      ∃ expiresAtMs, runtime.dates.parse requirement.document.expiresAt = some expiresAtMs ∧
        db' = db.put (requirementKey keyPrefix requirement.document.dependencyId)
          ⟨canonicalJson runtime.numbers (storedJson requirement.document tenantId),
            expiresAtMs⟩ := by
  unfold putDocument at h
  split_ifs at h with htenant hplain
  · cases h
  · cases h
  · obtain ⟨_, herror⟩ | ⟨expiresAtMs, hexpiresAt, -, hput⟩ := setOnce_cases keyPrefix
      (js "requirement") requirement.document.dependencyId (js "Dependency ID already exists")
      (canonicalJson runtime.numbers (storedJson requirement.document tenantId))
      (runtime.dates.parse requirement.document.expiresAt) now db
    · rw [herror] at h
      cases h
    · rw [hput] at h
      exact ⟨by simpa using htenant, by simpa using hplain, expiresAtMs, hexpiresAt,
        (Prod.ext_iff.mp h).2.symm⟩

theorem putDocument_eq_error {requirement : NewRequirement} {tenantId : Option JsString}
    {now : Instant} {db db' : RedisDb} {error : JsError}
    (h : putDocument runtime keyPrefix requirement tenantId now db = (.error error, db')) :
    db' = db := by
  unfold putDocument at h
  split_ifs at h
  · exact (Prod.ext_iff.mp h).2.symm
  · exact (Prod.ext_iff.mp h).2.symm
  · obtain ⟨_, herror⟩ | ⟨_, -, -, hput⟩ := setOnce_cases keyPrefix
      (js "requirement") requirement.document.dependencyId (js "Dependency ID already exists")
      (canonicalJson runtime.numbers (storedJson requirement.document tenantId))
      (runtime.dates.parse requirement.document.expiresAt) now db
    · rw [herror] at h
      exact (Prod.ext_iff.mp h).2.symm
    · rw [hput] at h
      cases h

theorem documents_holds : (documents runtime keyPrefix).Holds
    fun db id => (db (requirementKey keyPrefix id)).isSome := by
  refine ⟨fun {db db' requirement tenantId now error} h id hholds => ?_,
    fun {db db' requirement tenantId now} h => ?_, fun {db dependencyId now} hid => ?_⟩
  · change putDocument runtime keyPrefix requirement tenantId now db = _ at h
    rwa [putDocument_eq_error h] at hholds
  · obtain ⟨-, -, expiresAtMs, -, rfl⟩ := putDocument_eq_ok h
    simp [Cells.put]
  · simp [documents, deleteDocument, List.isEmpty_eq_false_iff.mpr hid, Cells.erase]

end RedisX424Store

namespace PostgresX424Store

variable {runtime : Runtime} {jsonb : Jsonb runtime.numbers}

theorem putDocument_eq_ok {requirement : NewRequirement} {tenantId : Option JsString}
    {now : Instant} {rows rows' : Cells JsString RequirementRow}
    (h : putDocument runtime jsonb requirement tenantId now rows = (.ok (), rows')) :
    requirement.plain = true ∧ ∃ document expiresAtMs,
      jsonb.read (canonicalJson runtime.numbers requirement.document.toJson) = some document ∧
      runtime.dates.parse requirement.document.expiresAt = some expiresAtMs ∧
      rows' = rows.put requirement.document.dependencyId
        ⟨⟨document, tenantId⟩, expiresAtMs⟩ := by
  unfold putDocument insertOnConflictDoNothing at h
  split_ifs at h with htenant hplain hfound
  · cases h
  · cases h
  · split at h <;> cases h
  · split at h
    · cases h
    · cases h
    · rename_i document expiresAtMs hread hexpiresAt
      exact ⟨by simpa using hplain, document, expiresAtMs, hread, hexpiresAt,
        (Prod.ext_iff.mp h).2.symm⟩

theorem putDocument_eq_error {requirement : NewRequirement} {tenantId : Option JsString}
    {now : Instant} {rows rows' : Cells JsString RequirementRow} {error : JsError}
    (h : putDocument runtime jsonb requirement tenantId now rows = (.error error, rows')) :
    rows' = rows := by
  unfold putDocument insertOnConflictDoNothing at h
  split_ifs at h
  · exact (Prod.ext_iff.mp h).2.symm
  · exact (Prod.ext_iff.mp h).2.symm
  · split at h <;> exact (Prod.ext_iff.mp h).2.symm
  · split at h
    · exact (Prod.ext_iff.mp h).2.symm
    · exact (Prod.ext_iff.mp h).2.symm
    · cases h

theorem documents_holds : (documents runtime jsonb).Holds fun rows id => (rows id).isSome := by
  refine ⟨fun {rows rows' requirement tenantId now error} h id hholds => ?_,
    fun {rows rows' requirement tenantId now} h => ?_, fun {rows dependencyId now} _ => ?_⟩
  · change putDocument runtime jsonb requirement tenantId now rows = _ at h
    rwa [putDocument_eq_error h] at hholds
  · change putDocument runtime jsonb requirement tenantId now rows = _ at h
    obtain ⟨-, _, _, -, -, rfl⟩ := putDocument_eq_ok h
    simp [Cells.put]
  · simp [documents, deleteDocument, Cells.erase]

end PostgresX424Store

end X424
