import X424.Foundation.Server
import X424.RequirementTexts

/-!
# What the checks use of stored requirements

The stores of `X424.RequirementStore` hold what the checks use of a requirement.
They answer as the stores of documents do, as long as every document that is put
is read back as it was: its URLs have no blanks around them, no member is named
`__proto__`, and its members are in canonical order.
-/

namespace X424

open Foundation

variable {dates : JsDates} {runtime : Runtime}

def DocumentRequest.read (dates : JsDates) : DocumentRequest → RequirementRequest
  | .putFor requirement tenantId => .putFor (requirement.document.read dates) tenantId
  | .get dependencyId => .get dependencyId
  | .getForTenant dependencyId tenantId => .getForTenant dependencyId tenantId
  | .delete dependencyId => .delete dependencyId
  | .deleteForTenant dependencyId tenantId => .deleteForTenant dependencyId tenantId

def DocumentReply.read (dates : JsDates) : DocumentReply → RequirementReply
  | .stored reply => .stored reply
  | .found reply => .found (reply.map (Option.map (RequirementDocument.read dates)))
  | .deleted reply => .deleted reply
  | .deletedForTenant reply => .deletedForTenant reply

def DocumentRequest.Admits (admits : NewRequirement → Option JsString → Prop) :
    DocumentRequest → Prop
  | .putFor requirement tenantId => admits requirement tenantId
  | _ => True

/-- The store of the checks gives the answers of the store of documents, as the checks read
them. -/
structure ReadByChecks {ρ τ : Type} (dates : JsDates)
    (admits : NewRequirement → Option JsString → Prop)
    (documents : DocumentStore ρ) (store : RequirementStore τ) (related : ρ → τ → Prop) :
    Prop where
  empty : related documents.empty store.empty
  answer : ∀ {s t} now request, related s t → request.Admits admits →
    (store.answer now (request.read dates) t).1 =
        (documents.answer now request s).1.read dates ∧
      related (documents.answer now request s).2 (store.answer now (request.read dates) t).2

/-- Along every list of calls the answers are the ones that the checks read. -/
theorem ReadByChecks.answers {ρ τ : Type} {admits : NewRequirement → Option JsString → Prop}
    {documents : DocumentStore ρ} {store : RequirementStore τ} {related : ρ → τ → Prop}
    (h : ReadByChecks dates admits documents store related)
    {requests : List (Instant × DocumentRequest)}
    (hadmits : ∀ request ∈ requests, request.2.Admits admits) {s : ρ} {t : τ}
    (hrelated : related s t) :
    (Server.mk store.answer).answers t
        (requests.map fun request => (request.1, request.2.read dates)) =
      ((Server.mk documents.answer).answers s requests).map (DocumentReply.read dates) := by
  induction requests generalizing s t with
  | nil => rfl
  | cons request rest ih =>
      obtain ⟨hhead, htail⟩ := List.forall_mem_cons.mp hadmits
      obtain ⟨hreply, hnext⟩ := h.answer request.1 request.2 hrelated hhead
      simp only [List.map_cons, Server.answers]
      rw [hreply, ih htail hnext]

/-! ## In memory -/

namespace InMemoryRequirementStore

def ReadAs (dates : JsDates) (entries : DocumentEntries) (found : RequirementEntries) : Prop :=
  ∀ id, found.find id = (entries.find id).map fun stored =>
    ⟨stored.document.read dates, stored.tenantId⟩

variable {entries : DocumentEntries} {found : RequirementEntries}

theorem ReadAs.isSome (h : ReadAs dates entries found) (id : JsString) :
    (found.find id).isSome = (entries.find id).isSome := by
  rw [h id, Option.isSome_map]

theorem ReadAs.size (h : ReadAs dates entries found) : found.size = entries.size :=
  Nat.le_antisymm (Table.size_le_of_find (u := entries) fun id hid => (h.isSome id).symm.trans hid)
    (Table.size_le_of_find (u := found) fun id hid => (h.isSome id).trans hid)

theorem ReadAs.prune (h : ReadAs dates entries found) (now : Instant) :
    ReadAs dates (pruneDocuments dates now entries)
      (InMemoryRequirementStore.prune now found) := by
  intro id
  rw [InMemoryRequirementStore.prune, pruneDocuments, Table.find_filter, Table.find_filter, h id,
    Option.filter_map]
  rfl

theorem ReadAs.erase (h : ReadAs dates entries found) (dependencyId : JsString) :
    ReadAs dates (entries.erase dependencyId) (found.erase dependencyId) := by
  intro id
  by_cases hid : id = dependencyId
  · subst hid
    rw [Table.find_erase_same, Table.find_erase_same]
    rfl
  · rw [Table.find_erase_of_ne entries hid, Table.find_erase_of_ne found hid]
    exact h id

theorem ReadAs.put (h : ReadAs dates entries found) (stored : StoredDocument) :
    ReadAs dates (entries.put stored)
      (found.put ⟨stored.document.read dates, stored.tenantId⟩) := by
  intro id
  by_cases hid : id = stored.dependencyId
  · subst hid
    rw [Table.find_put_same]
    exact Table.find_put_same found ⟨stored.document.read dates, stored.tenantId⟩
  · rw [Table.find_put_of_ne entries hid]
    exact (Table.find_put_of_ne found hid).trans (h id)

theorem ReadAs.getEntry (h : ReadAs dates entries found) (dependencyId : JsString)
    (now : Instant) :
    (InMemoryRequirementStore.getEntry dependencyId now found).1 =
        (getDocumentEntry dates dependencyId now entries).1.map (fun stored =>
          ⟨stored.document.read dates, stored.tenantId⟩) ∧
      ReadAs dates (getDocumentEntry dates dependencyId now entries).2
        (InMemoryRequirementStore.getEntry dependencyId now found).2 := by
  unfold InMemoryRequirementStore.getEntry getDocumentEntry
  rw [h dependencyId]
  cases entries.find dependencyId with
  | none => exact ⟨rfl, h⟩
  | some stored =>
      have hexpired : StoredRequirement.expired
          ⟨stored.document.read dates, stored.tenantId⟩ now = stored.expired dates now := rfl
      simp only [Option.map_some, hexpired]
      split_ifs
      · exact ⟨rfl, h.erase dependencyId⟩
      · exact ⟨rfl, h⟩

theorem readByChecks (maximumEntries : Nat) :
    ReadByChecks dates (fun _ _ => True) (documentStore dates maximumEntries)
      (inMemoryRequirementStore maximumEntries) (ReadAs dates) where
  empty _ := rfl
  answer := by
    intro entries found now request h _
    cases request with
    | putFor requirement tenantId =>
        have hfound := (h.prune now).isSome requirement.document.dependencyId
        have hsize := (h.prune now).size
        have hexpired : StoredRequirement.expired
            ⟨requirement.document.read dates, tenantId⟩ now =
              StoredDocument.expired dates ⟨requirement.document, tenantId⟩ now := rfl
        have hid : (requirement.document.read dates).dependencyId =
          requirement.document.dependencyId := rfl
        simp only [DocumentRequest.read, RequirementStore.answer, DocumentStore.answer,
          inMemoryRequirementStore, documentStore, InMemoryRequirementStore.putFor, putDocument,
          hid, hfound, hsize, hexpired]
        split_ifs
        · exact ⟨rfl, h⟩
        · exact ⟨rfl, h.prune now⟩
        · exact ⟨rfl, h.prune now⟩
        · exact ⟨rfl, h.prune now⟩
        · exact ⟨rfl, (h.prune now).put ⟨requirement.document, tenantId⟩⟩
    | get dependencyId =>
        obtain ⟨hreply, hnext⟩ := h.getEntry dependencyId now
        refine ⟨congrArg (fun reply => RequirementReply.found (.ok reply)) ?_, hnext⟩
        rw [hreply, Option.map_map, Option.map_map]
        rfl
    | getForTenant dependencyId tenantId =>
        obtain ⟨hreply, hnext⟩ := h.getEntry dependencyId now
        simp only [DocumentRequest.read, RequirementStore.answer, DocumentStore.answer,
          inMemoryRequirementStore, documentStore, InMemoryRequirementStore.getForTenant,
          getDocumentForTenant]
        split_ifs
        · exact ⟨rfl, h⟩
        · refine ⟨congrArg (fun reply => RequirementReply.found (.ok reply)) ?_, hnext⟩
          rw [hreply, Option.filter_map, Option.map_map, Option.map_map]
          rfl
    | delete dependencyId => exact ⟨rfl, h.erase dependencyId⟩
    | deleteForTenant dependencyId tenantId =>
        obtain ⟨hreply, hnext⟩ := h.getEntry dependencyId now
        simp only [DocumentRequest.read, RequirementStore.answer, DocumentStore.answer,
          inMemoryRequirementStore, documentStore, InMemoryRequirementStore.deleteForTenant,
          deleteDocumentForTenant, hreply, Option.any_map]
        split_ifs
        · exact ⟨rfl, h⟩
        · exact ⟨rfl, hnext.erase dependencyId⟩
        · exact ⟨rfl, hnext⟩

end InMemoryRequirementStore

/-! ## Redis -/

namespace RedisX424Store

structure ReadAs (runtime : Runtime) (text : Cell JsString) (cell : Cell StoredRequirement) :
    Prop where
  expiresAt : text.expiresAt = cell.expiresAt
  parsed : ∃ document,
    parseStoredRequirement runtime text.value = .ok (document, cell.value.tenantId) ∧
      cell.value.requirement = document.read runtime.dates

variable {keyPrefix dependencyId : JsString} {now : Instant} {db : RedisDb}
  {cells : RedisTable StoredRequirement}

theorem requirementKey_injective : Function.Injective (requirementKey keyPrefix) :=
  redisKey_injective keyPrefix (js "requirement")

theorem expired_eq_of_read {stored : StoredRequirement} {document : RequirementDocument}
    (h : stored.requirement = document.read runtime.dates) (now : Instant) :
    stored.expired now = parsedLe (runtime.dates.parse document.expiresAt) now := by
  rw [StoredRequirement.expired, h]
  rfl

theorem get_related (h : Cells.Related (requirementKey keyPrefix) (ReadAs runtime) db cells)
    (dependencyId : JsString) (now : Instant) :
    (db.get now (requirementKey keyPrefix dependencyId) = none ∧
      cells.get now (requirementKey keyPrefix dependencyId) = none) ∨
    ∃ value stored document, db.get now (requirementKey keyPrefix dependencyId) = some value ∧
      cells.get now (requirementKey keyPrefix dependencyId) = some stored ∧
      parseStoredRequirement runtime value = .ok (document, stored.tenantId) ∧
      stored.requirement = document.read runtime.dates := by
  have hlive := h.live ReadAs.expiresAt now dependencyId
  unfold RedisTable.get
  revert hlive
  generalize Cells.live db now (requirementKey keyPrefix dependencyId) = text
  generalize Cells.live cells now (requirementKey keyPrefix dependencyId) = cell
  intro hlive
  cases hlive with
  | none => exact .inl ⟨rfl, rfl⟩
  | some hread =>
      obtain ⟨document, hparsed, hrequirement⟩ := hread.parsed
      exact .inr ⟨_, _, document, rfl, rfl, hparsed, hrequirement⟩

def ReadBack (runtime : Runtime) (requirement : NewRequirement) (tenantId : Option JsString) :
    Prop :=
  requirement.plain = true ∧
    parseStoredRequirement runtime
      (canonicalJson runtime.numbers (storedJson requirement.document tenantId)) =
        .ok (requirement.document, tenantId)

theorem setOnce_related {requirement : NewRequirement} {tenantId : Option JsString}
    (h : Cells.Related (requirementKey keyPrefix) (ReadAs runtime) db cells)
    (hread : parseStoredRequirement runtime
      (canonicalJson runtime.numbers (storedJson requirement.document tenantId)) =
        .ok (requirement.document, tenantId)) :
    let expiresAt := runtime.dates.parse requirement.document.expiresAt
    let texts := setOnce keyPrefix (js "requirement") requirement.document.dependencyId
      (canonicalJson runtime.numbers (storedJson requirement.document tenantId)) expiresAt now
      (js "Dependency ID already exists") db
    let stored := setOnce keyPrefix (js "requirement") requirement.document.dependencyId
      (⟨requirement.document.read runtime.dates, tenantId⟩ : StoredRequirement) expiresAt now
      (js "Dependency ID already exists") cells
    stored.1 = texts.1 ∧
      Cells.Related (requirementKey keyPrefix) (ReadAs runtime) texts.2 stored.2 := by
  have hfree : (Cells.live db now
        (requirementKey keyPrefix requirement.document.dependencyId)).isSome =
      (Cells.live cells now
        (requirementKey keyPrefix requirement.document.dependencyId)).isSome := by
    have hlive := h.live ReadAs.expiresAt now requirement.document.dependencyId
    revert hlive
    generalize Cells.live db now _ = text
    generalize Cells.live cells now _ = cell
    intro hlive
    cases hlive <;> rfl
  simp only [setOnce, RedisTable.setNx]
  rw [hfree]
  split_ifs
  · exact ⟨rfl, h⟩
  · cases futureExpiry (runtime.dates.parse requirement.document.expiresAt) now <;> exact ⟨rfl, h⟩
  · cases futureExpiry (runtime.dates.parse requirement.document.expiresAt) now with
    | none => exact ⟨rfl, h⟩
    | some e =>
        exact ⟨rfl, h.put requirementKey_injective _ ⟨rfl, requirement.document, hread, rfl⟩⟩

theorem readByChecks (runtime : Runtime) (keyPrefix : JsString) :
    ReadByChecks runtime.dates (ReadBack runtime) (documentStore runtime keyPrefix)
      (requirements keyPrefix) (Cells.Related (requirementKey keyPrefix) (ReadAs runtime)) where
  empty _ := .none
  answer := by
    intro db cells now request h hadmits
    cases request with
    | putFor requirement tenantId =>
        obtain ⟨hplain, hread⟩ := hadmits
        obtain ⟨hreply, hnext⟩ := @setOnce_related _ _ now _ _ _ _ h hread
        simp only [DocumentRequest.read, RequirementStore.answer, DocumentStore.answer,
          requirements, documentStore, documents, putRequirement, putDocument, hplain,
          Bool.not_true, Bool.false_eq_true, if_false]
        split_ifs
        · exact ⟨rfl, h⟩
        · exact ⟨congrArg RequirementReply.stored hreply, hnext⟩
    | get dependencyId =>
        simp only [DocumentRequest.read, RequirementStore.answer, DocumentStore.answer,
          requirements, documentStore, getRequirement, readRequirement, getDocument]
        split_ifs
        · exact ⟨rfl, h⟩
        · obtain ⟨hvalue, hstored⟩ | ⟨value, stored, document, hvalue, hstored, hparsed,
            hrequirement⟩ := get_related h dependencyId now
          · rw [hvalue, hstored]
            exact ⟨rfl, h⟩
          · have hexpired := expired_eq_of_read hrequirement now
            simp only [hvalue, hstored, hparsed, hexpired]
            split_ifs
            · exact ⟨rfl, h.erase requirementKey_injective dependencyId⟩
            · simp only [Option.map_some, hrequirement]
              exact ⟨rfl, h⟩
    | getForTenant dependencyId tenantId =>
        simp only [DocumentRequest.read, RequirementStore.answer, DocumentStore.answer,
          requirements, documentStore, getRequirementForTenant, readRequirement,
          getDocumentForTenant]
        split_ifs
        · exact ⟨rfl, h⟩
        · exact ⟨rfl, h⟩
        · obtain ⟨hvalue, hstored⟩ | ⟨value, stored, document, hvalue, hstored, hparsed,
            hrequirement⟩ := get_related h dependencyId now
          · rw [hvalue, hstored]
            exact ⟨rfl, h⟩
          · have hexpired := expired_eq_of_read hrequirement now
            simp only [hvalue, hstored, hparsed, hexpired]
            split_ifs with hpast howner
            · exact ⟨rfl, h.erase requirementKey_injective dependencyId⟩
            · simp only [Option.filter_some, howner, decide_true, if_true, Option.map_some,
                hrequirement]
              exact ⟨rfl, h⟩
            · simp only [Option.filter_some, howner, decide_false, Bool.false_eq_true, if_false]
              exact ⟨rfl, h⟩
    | delete dependencyId =>
        simp only [DocumentRequest.read, RequirementStore.answer, DocumentStore.answer,
          requirements, documentStore, documents, deleteRequirement, deleteDocument]
        split_ifs
        · exact ⟨rfl, h⟩
        · exact ⟨rfl, h.erase requirementKey_injective dependencyId⟩
    | deleteForTenant dependencyId tenantId =>
        simp only [DocumentRequest.read, RequirementStore.answer, DocumentStore.answer,
          requirements, documentStore, deleteRequirementForTenant, deleteDocumentForTenant]
        split_ifs
        · exact ⟨rfl, h⟩
        · exact ⟨rfl, h⟩
        · obtain ⟨hvalue, hstored⟩ | ⟨value, stored, document, hvalue, hstored, hparsed,
            hrequirement⟩ := get_related h dependencyId now
          · rw [hvalue, hstored]
            exact ⟨rfl, h⟩
          · have hexpired := expired_eq_of_read hrequirement now
            simp only [hvalue, hstored, hparsed, hexpired]
            split_ifs
            · exact ⟨rfl, h⟩
            · exact ⟨rfl, h.erase requirementKey_injective dependencyId⟩

end RedisX424Store

/-! ## PostgreSQL -/

namespace PostgresX424Store

structure ReadAs (runtime : Runtime) (row : Cell RequirementRow) (cell : Cell StoredRequirement) :
    Prop where
  expiresAt : row.expiresAt = cell.expiresAt
  ownerId : row.value.ownerId = cell.value.tenantId
  parsed : ∃ document, parseHumanRequirement runtime row.value.document = .ok document ∧
    cell.value.requirement = document.read runtime.dates

/-- What `jsonb` makes of the text is read back as the requirement. -/
def ReadBack (runtime : Runtime) (jsonb : Jsonb runtime.numbers) (requirement : NewRequirement)
    (_tenantId : Option JsString) : Prop :=
  requirement.plain = true ∧
    ∃ value, jsonb.read (canonicalJson runtime.numbers requirement.document.toJson) = some value ∧
      parseHumanRequirement runtime value = .ok requirement.document

variable {now : Instant} {rows : Cells JsString RequirementRow}
  {cells : Cells JsString StoredRequirement}

theorem row_related (h : Cells.Related (fun id => id) (ReadAs runtime) rows cells)
    (dependencyId : JsString) :
    (rows dependencyId = none ∧ cells dependencyId = none) ∨
    ∃ row cell, rows dependencyId = some row ∧ cells dependencyId = some cell ∧
      ReadAs runtime row cell := by
  have hrow := h dependencyId
  revert hrow
  generalize rows dependencyId = row
  generalize cells dependencyId = cell
  intro hrow
  cases hrow with
  | none => exact .inl ⟨rfl, rfl⟩
  | some hread => exact .inr ⟨_, _, rfl, rfl, hread⟩

theorem readByChecks (runtime : Runtime) (jsonb : Jsonb runtime.numbers) :
    ReadByChecks runtime.dates (ReadBack runtime jsonb) (documentStore runtime jsonb)
      requirements (Cells.Related (fun id => id) (ReadAs runtime)) where
  empty _ := .none
  answer := by
    intro rows cells now request h hadmits
    cases request with
    | putFor requirement tenantId =>
        obtain ⟨hplain, value, hvalue, hread⟩ := hadmits
        have hexpiresAt : (requirement.document.read runtime.dates).expiresAt =
          runtime.dates.parse requirement.document.expiresAt := rfl
        have hid : (requirement.document.read runtime.dates).dependencyId =
          requirement.document.dependencyId := rfl
        simp only [DocumentRequest.read, RequirementStore.answer, DocumentStore.answer,
          requirements, documentStore, documents, putRequirement, putDocument, hplain, hvalue,
          hexpiresAt, hid, insertOnConflictDoNothing, Bool.not_true, Bool.false_eq_true, if_false]
        cases tenantId.all isTenantId with
        | false => exact ⟨rfl, h⟩
        | true =>
            cases runtime.dates.parse requirement.document.expiresAt with
            | none => exact ⟨rfl, h⟩
            | some e =>
                obtain ⟨hrow, hcell⟩ | ⟨row, cell, hrow, hcell, -⟩ :=
                  row_related h requirement.document.dependencyId
                · simp only [hrow, hcell]
                  exact ⟨rfl, h.put Function.injective_id _ ⟨rfl, rfl, _, hread, rfl⟩⟩
                · simp only [hrow, hcell]
                  exact ⟨rfl, h⟩
    | get dependencyId =>
        simp only [DocumentRequest.read, RequirementStore.answer, DocumentStore.answer,
          requirements, documentStore, getRequirement, readRequirement, getDocument]
        obtain ⟨hrow, hcell⟩ | ⟨row, cell, hrow, hcell, hread⟩ := row_related h dependencyId
        · rw [hrow, hcell]
          exact ⟨rfl, h⟩
        · obtain ⟨document, hparsed, hrequirement⟩ := hread.parsed
          simp only [hrow, hcell, hread.expiresAt, hparsed, hrequirement]
          split_ifs
          · exact ⟨rfl, h.erase Function.injective_id dependencyId⟩
          · exact ⟨rfl, h⟩
    | getForTenant dependencyId tenantId =>
        simp only [DocumentRequest.read, RequirementStore.answer, DocumentStore.answer,
          requirements, documentStore, getRequirementForTenant, readRequirement,
          getDocumentForTenant]
        cases isTenantId tenantId with
        | false => exact ⟨rfl, h⟩
        | true =>
            obtain ⟨hrow, hcell⟩ | ⟨row, cell, hrow, hcell, hread⟩ := row_related h dependencyId
            · rw [hrow, hcell]
              exact ⟨rfl, h⟩
            · obtain ⟨document, hparsed, hrequirement⟩ := hread.parsed
              simp only [Bool.not_true, Bool.false_eq_true, if_false, hrow, hcell,
                Option.filter_some, hread.ownerId, decide_eq_true_eq]
              by_cases howner : cell.value.tenantId = some tenantId
              · simp only [howner, if_true, hread.expiresAt, hparsed, hrequirement]
                split_ifs
                · exact ⟨rfl, h.erase Function.injective_id dependencyId⟩
                · exact ⟨rfl, h⟩
              · simp only [howner, if_false]
                exact ⟨rfl, h⟩
    | delete dependencyId => exact ⟨rfl, h.erase Function.injective_id dependencyId⟩
    | deleteForTenant dependencyId tenantId =>
        simp only [DocumentRequest.read, RequirementStore.answer, DocumentStore.answer,
          requirements, documentStore, deleteRequirementForTenant, deleteDocumentForTenant]
        cases isTenantId tenantId with
        | false => exact ⟨rfl, h⟩
        | true =>
            obtain ⟨hrow, hcell⟩ | ⟨row, cell, hrow, hcell, hread⟩ := row_related h dependencyId
            · rw [hrow, hcell]
              exact ⟨rfl, h⟩
            · simp only [Bool.not_true, Bool.false_eq_true, if_false, hrow, hcell, hread.ownerId,
                hread.expiresAt]
              split_ifs
              · exact ⟨rfl, h.erase Function.injective_id dependencyId⟩
              · exact ⟨rfl, h⟩

end PostgresX424Store

end X424
