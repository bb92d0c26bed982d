import X424.Api.IssuedRequirement
import X424.Foundation.Server

/-!
# The requirement stores side by side

The three stores are given the same calls at the same times and compared with
what a requirement store is for: it knows which requirements were put and not
deleted, and shows each of them strictly before its `expiresAt`.  Redis keeps a
text of it and PostgreSQL a `jsonb` document, and both put what they read
through its schema.
-/

namespace X424

open Foundation

/-! ## What the stores are for -/

/-- The ids that were put, and what is put and not deleted, expired or not. -/
structure KnownRequirements where
  used : List JsString
  held : JsString → Option StoredDocument

namespace KnownRequirements

def empty : KnownRequirements := ⟨[], fun _ => none⟩

def put (known : KnownRequirements) (stored : StoredDocument) : KnownRequirements :=
  ⟨stored.dependencyId :: known.used,
    Function.update known.held stored.dependencyId (some stored)⟩

def delete (known : KnownRequirements) (dependencyId : JsString) : KnownRequirements :=
  { known with held := Function.update known.held dependencyId none }

theorem held_put_self (known : KnownRequirements) (stored : StoredDocument) :
    (known.put stored).held stored.dependencyId = some stored := by
  simp only [put, Function.update_self]

theorem delete_held (known : KnownRequirements) (dependencyId id : JsString) :
    (known.delete dependencyId).held id = if id = dependencyId then none else known.held id :=
  Function.update_apply known.held dependencyId none id

variable (dates : JsDates)

/-- What is shown at `now`. -/
def shown (known : KnownRequirements) (now : Instant) (dependencyId : JsString) :
    Option StoredDocument :=
  (known.held dependencyId).filter fun stored => !stored.expired dates now

def shownTo (known : KnownRequirements) (now : Instant) (dependencyId tenantId : JsString) :
    Option StoredDocument :=
  (known.shown dates now dependencyId).filter fun stored => stored.tenantId = some tenantId

def answer (now : Instant) (request : DocumentRequest) (known : KnownRequirements) :
    DocumentReply × KnownRequirements :=
  match request with
  | .putFor requirement tenantId =>
      (.stored (.ok ()), known.put ⟨requirement.document, tenantId⟩)
  | .get dependencyId =>
      (.found (.ok ((known.shown dates now dependencyId).map StoredDocument.document)), known)
  | .getForTenant dependencyId tenantId =>
      if !isTenantId tenantId then (.found (.error invalidTenantId), known)
      else
        (.found (.ok ((known.shownTo dates now dependencyId tenantId).map
          StoredDocument.document)), known)
  | .delete dependencyId => (.deleted (.ok ()), known.delete dependencyId)
  | .deleteForTenant dependencyId tenantId =>
      if !isTenantId tenantId then (.deletedForTenant (.error invalidTenantId), known)
      else if (known.shownTo dates now dependencyId tenantId).isSome then
        (.deletedForTenant (.ok true), known.delete dependencyId)
      else (.deletedForTenant (.ok false), known)

end KnownRequirements

def RequirementDocument.SameJson (document other : RequirementDocument) : Prop :=
  document.toJson.Same other.toJson

/-- The same answer, as far as the caller can tell from its JSON. -/
inductive DocumentReply.Same : DocumentReply → DocumentReply → Prop
  | stored (reply : Except JsError Unit) : Same (.stored reply) (.stored reply)
  | refused (error : JsError) : Same (.found (.error error)) (.found (.error error))
  | found {a b : Option RequirementDocument} (h : Option.Rel RequirementDocument.SameJson a b) :
      Same (.found (.ok a)) (.found (.ok b))
  | deleted (reply : Except JsError Unit) : Same (.deleted reply) (.deleted reply)
  | deletedForTenant (reply : Except JsError Bool) :
      Same (.deletedForTenant reply) (.deletedForTenant reply)

abbrev RequirementStates :=
  KnownRequirements × DocumentEntries × RedisDb × Cells JsString PostgresX424Store.RequirementRow

def RequirementStates.empty : RequirementStates :=
  (.empty, Table.empty, Cells.empty, Cells.empty)

def requirementServers (platform : Platform) (jsonb : Jsonb platform.numbers)
    (maximumEntries : Nat) (keyPrefix : JsString) : Server RequirementStates DocumentRequest
      (DocumentReply × DocumentReply × DocumentReply × DocumentReply) :=
  Server.prod ⟨KnownRequirements.answer platform.dates⟩
    (Server.prod ⟨(InMemoryRequirementStore.documentStore platform.dates maximumEntries).answer⟩
      (Server.prod ⟨(RedisX424Store.documentStore platform.toRuntime keyPrefix).answer⟩
        ⟨(PostgresX424Store.documentStore platform.toRuntime jsonb).answer⟩))

def AnswersKnown (reply : DocumentReply × DocumentReply × DocumentReply × DocumentReply) : Prop :=
  reply.2.1.Same reply.1 ∧ reply.2.2.1.Same reply.1 ∧ reply.2.2.2.Same reply.1

/-! ## The calls -/

section Calls

variable (platform : Platform) (jsonb : Jsonb platform.numbers) (maximumEntries : Nat)
  (now : Instant)

/-- A requirement that its schema takes is put once, with a tenant id that the stores accept,
before it expires and while there is room in memory. -/
def PutsFresh : DocumentRequest → RequirementStates → Prop
  | .putFor requirement tenantId, s =>
      (HumanRequirementSchema platform.dates platform.urls requirement.document.toJson).isSome ∧
        (∀ members ∈ requirement.document.providerRequests,
          (Json.object members).WellFormed platform.numbers) ∧
        requirement.document.dependencyId ∉ s.1.used ∧ tenantId.all isTenantId ∧
        (∃ e, platform.dates.parse requirement.document.expiresAt = some e ∧ now < e) ∧
        (InMemoryRequirementStore.pruneDocuments platform.dates now s.2.1).size < maximumEntries
  | _, _ => True

/-- Its schema returns the requirement as it is, and `jsonb` takes its text. -/
structure NewRequirement.Keepable (requirement : NewRequirement) : Prop where
  plain : requirement.plain = true
  unchanged : HumanRequirementSchema platform.dates platform.urls requirement.document.toJson =
    some requirement.document
  protoFree : ∀ members ∈ requirement.document.providerRequests, (Json.object members).ProtoFree
  jsonb : (jsonb.read (canonicalJson platform.numbers requirement.document.toJson)).isSome

/-- It is not the part of the second in which the requirement expires that comes
before its expiry. -/
def RequirementDocument.OutsideLastSecond (document : RequirementDocument) : Prop :=
  ∀ e, platform.dates.parse document.expiresAt = some e → now < dateStringMs e ∨ e ≤ now

/-- What is put can be kept, the id is not empty, and a read does not fall into the last second
of what it asks for. -/
def AsksInTime : DocumentRequest → RequirementStates → Prop
  | .putFor requirement _, _ => requirement.Keepable platform jsonb
  | .get dependencyId, s =>
      dependencyId ≠ [] ∧ ∀ stored, s.1.held dependencyId = some stored →
        stored.document.OutsideLastSecond platform now
  | .getForTenant dependencyId tenantId, s =>
      isTenantId tenantId → dependencyId ≠ [] ∧ ∀ stored, s.1.held dependencyId = some stored →
        stored.tenantId = some tenantId → stored.document.OutsideLastSecond platform now
  | .delete dependencyId, _ => dependencyId ≠ []
  | .deleteForTenant dependencyId tenantId, _ => isTenantId tenantId → dependencyId ≠ []

end Calls

/-! ## What the stores hold -/

section Kept

variable {platform : Platform} {jsonb : Jsonb platform.numbers}

structure StoredDocument.Kept (platform : Platform) (stored : StoredDocument) : Prop where
  writable : stored.document.Writable platform
  valid : stored.document.Valid platform.dates
  plain : stored.document.Plain platform.numbers
  tenantId : stored.tenantId.all isTenantId = true
  expiresAt : ∃ e, platform.dates.parse stored.document.expiresAt = some e

theorem NewRequirement.Keepable.kept {requirement : NewRequirement}
    (h : requirement.Keepable platform jsonb)
    (hwell : ∀ members ∈ requirement.document.providerRequests,
      (Json.object members).WellFormed platform.numbers)
    {tenantId : Option JsString} (htenant : tenantId.all isTenantId = true) {e : Instant}
    (he : platform.dates.parse requirement.document.expiresAt = some e) :
    StoredDocument.Kept platform ⟨requirement.document, tenantId⟩ := by
  obtain ⟨hvalid, uri, audience, huri, haudience, hsame⟩ :=
    HumanRequirementSchema_toJson.mp h.unchanged
  have hresource := congrArg RequirementDocument.resource hsame
  obtain rfl : requirement.document.resource.uri = uri := congrArg ProtectedResource.uri hresource
  obtain rfl : requirement.document.resource.audience = audience :=
    congrArg ProtectedResource.audience hresource
  refine ⟨⟨?_, huri, haudience, hvalid.safeAge, hwell, ?_⟩, hvalid, ⟨hwell, h.protoFree⟩, htenant,
    e, he⟩
  · intro hempty
    have hpositive := hvalid.dependencyId.1
    rw [hempty] at hpositive
    exact absurd hpositive (by decide)
  · intro members hmembers member hmember hproto
    exact (everyObject_object.mp (h.protoFree members hmembers)).1
      (hproto ▸ List.mem_map_of_mem hmember)

variable {stored : StoredDocument}

theorem StoredDocument.expired_eq {e now : Instant}
    (h : platform.dates.parse stored.document.expiresAt = some e) :
    stored.expired platform.dates now = decide (e ≤ now) := by
  rw [StoredDocument.expired, h]
  rfl

theorem StoredDocument.expired_later {dates : JsDates} {now later : Instant} (hle : now ≤ later)
    (h : stored.expired dates now) : stored.expired dates later := by
  unfold StoredDocument.expired at h ⊢
  cases hparsed : dates.parse stored.document.expiresAt with
  | none =>
      rw [hparsed] at h
      cases h
  | some e =>
      rw [hparsed] at h
      exact decide_eq_true (Int.le_trans (of_decide_eq_true h) hle)

def StoredDocument.text (platform : Platform) (stored : StoredDocument) : Cell JsString :=
  ⟨canonicalJson platform.numbers (RedisX424Store.storedJson stored.document stored.tenantId),
    (platform.dates.parse stored.document.expiresAt).getD 0⟩

/-- The row of a requirement, whose document is read back as the same JSON. -/
structure StoredDocument.InRow (platform : Platform) (stored : StoredDocument)
    (row : Cell PostgresX424Store.RequirementRow) : Prop where
  expiresAt : platform.dates.parse stored.document.expiresAt = some row.expiresAt
  ownerId : row.value.ownerId = stored.tenantId
  document : ∃ again, parseHumanRequirement platform.toRuntime row.value.document = .ok again ∧
    again.SameJson stored.document

theorem StoredDocument.Kept.normalized (h : stored.Kept platform) :
    stored.document.normalized.SameJson stored.document := by
  rw [RequirementDocument.SameJson, ← h.writable.normalize_toJson]
  exact (same_normalize h.writable.wellFormed.distinctKeys
    (RequirementDocument.protoFree_toJson h.writable.safeAge h.plain)).symm

theorem StoredDocument.Kept.refl (h : stored.Kept platform) :
    stored.document.SameJson stored.document := h.normalized.symm.trans h.normalized

theorem StoredDocument.Kept.parse (h : stored.Kept platform) :
    RedisX424Store.parseStoredRequirement platform.toRuntime (stored.text platform).value =
      .ok (stored.document.normalized, stored.tenantId) :=
  parseStoredRequirement_storedJson h.writable (h.writable.schema_normalized h.valid) h.tenantId

/-- What `jsonb` makes of the text is read through the schema as the same JSON. -/
theorem StoredDocument.Kept.inRow (h : stored.Kept platform) {value : Json} {e : Instant}
    (hread : jsonb.read (canonicalJson platform.numbers stored.document.toJson) = some value)
    (he : platform.dates.parse stored.document.expiresAt = some e) :
    stored.InRow platform ⟨⟨value, stored.tenantId⟩, e⟩ := by
  obtain ⟨parsed, hparsed, hsame⟩ := jsonb.same hread
  rw [jsonParse_canonicalJson h.writable.wellFormed, h.writable.normalize_toJson] at hparsed
  cases hparsed
  have hkeys : value.DistinctKeys := by
    refine hsame.symm.distinctKeys ?_
    rw [← h.writable.normalize_toJson]
    exact (wellFormed_normalize h.writable.wellFormed).distinctKeys
  obtain ⟨requests, hschema, hrequests⟩ :=
    HumanRequirementSchema_same hsame hkeys (h.writable.schema_normalized h.valid)
  have hsafe : ∀ accepted ∈ stored.document.normalized.accepts, accepted.SafeAge :=
    h.writable.safeAge
  refine ⟨he, rfl, { stored.document.normalized with providerRequests := requests }, ?_, ?_⟩
  · rw [parseHumanRequirement, hschema]
  · exact (@toJson_same platform.numbers stored.document.normalized hsafe requests hrequests).trans
      h.normalized

end Kept

/-- What a store holds of what is known: the same, or nothing once it has expired. -/
def Faded (dates : JsDates) (time : Instant) (known found : Option StoredDocument) : Prop :=
  found = known ∨ (found = none ∧ ∃ stored, known = some stored ∧ stored.expired dates time)

namespace Faded

variable {dates : JsDates} {time now : Instant} {known found : Option StoredDocument}

theorem later (h : Faded dates time known found) (hle : time ≤ now) :
    Faded dates now known found := by
  refine h.imp_right fun ⟨hnone, stored, hknown, hexpired⟩ => ⟨hnone, stored, hknown, ?_⟩
  exact StoredDocument.expired_later hle hexpired

theorem shown (h : Faded dates now known found) :
    (found.filter fun stored => !stored.expired dates now) =
      known.filter fun stored => !stored.expired dates now := by
  rcases h with rfl | ⟨rfl, stored, rfl, hexpired⟩
  · rfl
  · rw [Option.filter_none, Option.filter_some_neg (by simp [hexpired])]

theorem of_expired {stored : StoredDocument} (hexpired : stored.expired dates now) :
    Faded dates now (some stored) none :=
  Or.inr ⟨rfl, stored, rfl, hexpired⟩

theorem eq_none (h : Faded dates now none found) : found = none := by
  rcases h with rfl | ⟨rfl, _⟩ <;> rfl

theorem filter (h : Faded dates now known found) :
    Faded dates now known (found.filter fun stored => !stored.expired dates now) := by
  rcases h with rfl | h
  · cases hfound : found with
    | none => exact Or.inl rfl
    | some stored =>
        cases hexpired : stored.expired dates now with
        | true => exact Or.inr ⟨by simp [hexpired], stored, rfl, hexpired⟩
        | false => exact Or.inl (by simp [hexpired])
  · exact Or.inr ⟨by simp [h.1], h.2⟩

end Faded

structure KnownRequirements.Sound (platform : Platform) (known : KnownRequirements) : Prop where
  used : ∀ {dependencyId}, dependencyId ∉ known.used → known.held dependencyId = none
  named : ∀ {dependencyId stored}, known.held dependencyId = some stored →
    stored.dependencyId = dependencyId ∧ stored.Kept platform

section Holds

variable (platform : Platform) (held : JsString → Option StoredDocument)

def MemoryHolds (time : Instant) (entries : DocumentEntries) : Prop :=
  ∀ dependencyId, Faded platform.dates time (held dependencyId) (entries.find dependencyId)

def RedisHolds (keyPrefix : JsString) (db : RedisDb) : Prop :=
  ∀ dependencyId, db (RedisX424Store.requirementKey keyPrefix dependencyId) =
    (held dependencyId).map (StoredDocument.text platform)

def PostgresHolds (time : Instant)
    (rows : Cells JsString PostgresX424Store.RequirementRow) : Prop :=
  ∀ dependencyId, ∃ found, Faded platform.dates time (held dependencyId) found ∧
    Option.Rel (StoredDocument.InRow platform) found (rows dependencyId)

end Holds

section Updates

variable {platform : Platform} {held : JsString → Option StoredDocument}
  {keyPrefix dependencyId : JsString} {stored : StoredDocument} {time now : Instant}
  {entries : DocumentEntries} {db : RedisDb}
  {rows : Cells JsString PostgresX424Store.RequirementRow}

theorem MemoryHolds.later (h : MemoryHolds platform held time entries) (hle : time ≤ now) :
    MemoryHolds platform held now entries := fun dependencyId => (h dependencyId).later hle

theorem PostgresHolds.later (h : PostgresHolds platform held time rows) (hle : time ≤ now) :
    PostgresHolds platform held now rows := by
  intro dependencyId
  obtain ⟨found, hfaded, hrow⟩ := h dependencyId
  exact ⟨found, hfaded.later hle, hrow⟩

theorem MemoryHolds.write (h : MemoryHolds platform held now entries) {next : DocumentEntries}
    {found : Option StoredDocument}
    (hfaded : Faded platform.dates now found (next.find dependencyId))
    (hother : ∀ id, id ≠ dependencyId → next.find id = entries.find id) :
    MemoryHolds platform (Function.update held dependencyId found) now next := by
  intro id
  rcases eq_or_ne id dependencyId with rfl | hne
  · rwa [Function.update_self]
  · rw [Function.update_of_ne hne, hother id hne]
    exact h id

theorem MemoryHolds.put (h : MemoryHolds platform held now entries) :
    MemoryHolds platform (Function.update held stored.dependencyId (some stored)) now
      (entries.put stored) :=
  h.write (Or.inl (Table.find_put_same entries stored)) fun _ => Table.find_put_of_ne entries

theorem MemoryHolds.erase (h : MemoryHolds platform held now entries) :
    MemoryHolds platform (Function.update held dependencyId none) now
      (entries.erase dependencyId) :=
  h.write (Or.inl (Table.find_erase_same entries dependencyId))
    fun _ => Table.find_erase_of_ne entries

theorem MemoryHolds.drop (h : MemoryHolds platform held now entries)
    (hfound : entries.find dependencyId = some stored)
    (hexpired : stored.expired platform.dates now) :
    MemoryHolds platform held now (entries.erase dependencyId) := by
  have hgone : Faded platform.dates now (held dependencyId)
      ((entries.erase dependencyId).find dependencyId) := by
    rw [Table.find_erase_same]
    rcases h dependencyId with hheld | ⟨hnone, -⟩
    · rw [← hheld, hfound]
      exact .of_expired hexpired
    · cases hfound.symm.trans hnone
  have hwrite := h.write hgone fun _ => Table.find_erase_of_ne entries
  rwa [Function.update_eq_self] at hwrite

theorem MemoryHolds.prune (h : MemoryHolds platform held now entries) :
    MemoryHolds platform held now
      (InMemoryRequirementStore.pruneDocuments platform.dates now entries) := by
  intro id
  rw [InMemoryRequirementStore.pruneDocuments, Table.find_filter]
  exact (h id).filter

theorem RedisHolds.write (h : RedisHolds platform held keyPrefix db)
    (found : Option StoredDocument) :
    RedisHolds platform (Function.update held dependencyId found) keyPrefix
      (Function.update db (RedisX424Store.requirementKey keyPrefix dependencyId)
        (found.map (StoredDocument.text platform))) := by
  intro id
  rcases eq_or_ne id dependencyId with rfl | hne
  · rw [Function.update_self, Function.update_self]
  · rw [Function.update_of_ne hne, Function.update_of_ne ((redisKey_injective keyPrefix _).ne hne)]
    exact h id

theorem PostgresHolds.write (h : PostgresHolds platform held now rows)
    {found shown : Option StoredDocument} {row : Option (Cell PostgresX424Store.RequirementRow)}
    (hfaded : Faded platform.dates now found shown)
    (hrow : Option.Rel (StoredDocument.InRow platform) shown row) :
    PostgresHolds platform (Function.update held dependencyId found) now
      (Function.update rows dependencyId row) := by
  intro id
  rcases eq_or_ne id dependencyId with rfl | hne
  · rw [Function.update_self, Function.update_self]
    exact ⟨shown, hfaded, hrow⟩
  · rw [Function.update_of_ne hne, Function.update_of_ne hne]
    exact h id

theorem PostgresHolds.drop (h : PostgresHolds platform held now rows)
    (hheld : held dependencyId = some stored) (hexpired : stored.expired platform.dates now) :
    PostgresHolds platform held now (rows.erase dependencyId) := by
  have hwrite := @PostgresHolds.write _ _ dependencyId _ _ h (held dependencyId) none none
    (hheld ▸ .of_expired hexpired) .none
  rwa [Function.update_eq_self] at hwrite

theorem PostgresHolds.row (h : PostgresHolds platform held now rows)
    {row : Cell PostgresX424Store.RequirementRow} (hrow : rows dependencyId = some row) :
    ∃ stored, held dependencyId = some stored ∧ stored.InRow platform row := by
  obtain ⟨found, hfaded, hrel⟩ := h dependencyId
  rw [hrow] at hrel
  cases hrel with
  | some hinRow =>
      rcases hfaded with heq | ⟨hnone, -⟩
      · exact ⟨_, heq.symm, hinRow⟩
      · cases hnone

theorem PostgresHolds.no_row (h : PostgresHolds platform held now rows)
    (hrow : rows dependencyId = none) (hheld : held dependencyId = some stored) :
    stored.expired platform.dates now = true := by
  obtain ⟨found, hfaded, hrel⟩ := h dependencyId
  rw [hrow] at hrel
  cases hrel with
  | none =>
      rcases hfaded with heq | ⟨-, other, hother, hexpired⟩
      · cases heq.trans hheld
      · cases hother.symm.trans hheld
        exact hexpired

end Updates

/-! ## The answers of each store -/

section Answers

variable {platform : Platform} {jsonb : Jsonb platform.numbers} {known : KnownRequirements}
  {keyPrefix dependencyId tenantId : JsString} {now : Instant} {maximumEntries : Nat}
  {entries : DocumentEntries} {db : RedisDb}
  {rows : Cells JsString PostgresX424Store.RequirementRow}

theorem KnownRequirements.shown_eq_some {dates : JsDates} {stored : StoredDocument} :
    known.shown dates now dependencyId = some stored ↔
      known.held dependencyId = some stored ∧ stored.expired dates now = false := by
  simp [shown, Option.filter_eq_some_iff]

theorem KnownRequirements.shown_eq_none {dates : JsDates} :
    known.shown dates now dependencyId = none ↔
      ∀ stored, known.held dependencyId = some stored → stored.expired dates now := by
  simp [shown, Option.filter_eq_none_iff]

theorem KnownRequirements.Sound.same_shown (h : known.Sound platform)
    {found : Option StoredDocument}
    (hfound : ∀ stored ∈ found, known.held dependencyId = some stored) :
    DocumentReply.Same (.found (.ok (found.map StoredDocument.document)))
      (.found (.ok (found.map StoredDocument.document))) := by
  cases found with
  | none => exact .found .none
  | some stored => exact .found (.some (h.named (hfound stored rfl)).2.refl)

/-! ### In memory -/

theorem MemoryHolds.getDocumentEntry (h : MemoryHolds platform known.held now entries) :
    (InMemoryRequirementStore.getDocumentEntry platform.dates dependencyId now entries).1 =
        known.shown platform.dates now dependencyId ∧
      MemoryHolds platform known.held now
        (InMemoryRequirementStore.getDocumentEntry platform.dates dependencyId now entries).2 := by
  have hshown := (h dependencyId).shown
  rw [KnownRequirements.shown, ← hshown]
  unfold InMemoryRequirementStore.getDocumentEntry
  cases hfound : entries.find dependencyId with
  | none => exact ⟨rfl, h⟩
  | some stored =>
      cases hexpired : stored.expired platform.dates now with
      | true =>
          simp only [hexpired, if_true, Option.filter_some, Bool.not_true, Bool.false_eq_true,
            if_false, true_and]
          exact h.drop hfound hexpired
      | false =>
          simp only [hexpired, Bool.false_eq_true, if_false, Option.filter_some, Bool.not_false,
            if_true, true_and]
          exact h

theorem MemoryHolds.answer (h : MemoryHolds platform known.held now entries)
    (hknown : known.Sound platform) {request : DocumentRequest}
    {others : RedisDb × Cells JsString _}
    (hfresh : PutsFresh platform maximumEntries now request (known, entries, others)) :
    ((InMemoryRequirementStore.documentStore platform.dates maximumEntries).answer now request
        entries).1.Same (known.answer platform.dates now request).1 ∧
      MemoryHolds platform (known.answer platform.dates now request).2.held now
        ((InMemoryRequirementStore.documentStore platform.dates maximumEntries).answer now request
          entries).2 := by
  have hshown : ∀ dependencyId, ∀ stored ∈ known.shown platform.dates now dependencyId,
      known.held dependencyId = some stored :=
    fun _ _ hstored => (KnownRequirements.shown_eq_some.mp hstored).1
  cases request with
  | putFor requirement tenantId =>
      obtain ⟨-, -, hunused, htenant, ⟨e, hexpires, hfuture⟩, hroom⟩ := hfresh
      have hnone : (InMemoryRequirementStore.pruneDocuments platform.dates now entries).find
          requirement.document.dependencyId = none := by
        have hpruned := h.prune requirement.document.dependencyId
        rw [hknown.used hunused] at hpruned
        exact hpruned.eq_none
      have hcurrent : StoredDocument.expired platform.dates ⟨requirement.document, tenantId⟩ now =
          false := by
        rw [StoredDocument.expired_eq hexpires]
        exact decide_eq_false (Int.not_le.mpr hfuture)
      have hput : InMemoryRequirementStore.putDocument platform.dates maximumEntries requirement
          tenantId now entries =
          (.ok (), (InMemoryRequirementStore.pruneDocuments platform.dates now entries).put
            ⟨requirement.document, tenantId⟩) := by
        simp only [InMemoryRequirementStore.putDocument, htenant, Bool.not_true,
          Bool.false_eq_true, if_false, hnone, Option.isSome_none, Nat.not_le.mpr hroom, hcurrent]
      simp only [DocumentStore.answer, InMemoryRequirementStore.documentStore, hput]
      exact ⟨.stored _, h.prune.put⟩
  | get dependencyId =>
      obtain ⟨hreply, hnext⟩ := @MemoryHolds.getDocumentEntry _ _ dependencyId _ _ h
      simp only [DocumentStore.answer, InMemoryRequirementStore.documentStore,
        InMemoryRequirementStore.getDocument, KnownRequirements.answer, hreply]
      exact ⟨hknown.same_shown (hshown dependencyId), hnext⟩
  | getForTenant dependencyId tenantId =>
      obtain ⟨hreply, hnext⟩ := @MemoryHolds.getDocumentEntry _ _ dependencyId _ _ h
      simp only [DocumentStore.answer, InMemoryRequirementStore.documentStore,
        InMemoryRequirementStore.getDocumentForTenant, KnownRequirements.answer]
      split_ifs
      · exact ⟨.refused _, h⟩
      · simp only [hreply, KnownRequirements.shownTo]
        have hown : ∀ stored ∈ known.shownTo platform.dates now dependencyId tenantId,
            known.held dependencyId = some stored := fun stored hstored =>
          hshown dependencyId stored (Option.filter_eq_some_iff.mp hstored).1
        exact ⟨hknown.same_shown hown, hnext⟩
  | delete dependencyId => exact ⟨.deleted _, h.erase⟩
  | deleteForTenant dependencyId tenantId =>
      obtain ⟨hreply, hnext⟩ := @MemoryHolds.getDocumentEntry _ _ dependencyId _ _ h
      simp only [DocumentStore.answer, InMemoryRequirementStore.documentStore,
        InMemoryRequirementStore.deleteDocumentForTenant, KnownRequirements.answer, hreply,
        KnownRequirements.shownTo, Option.isSome_filter]
      split_ifs
      · exact ⟨.deletedForTenant _, h⟩
      · exact ⟨.deletedForTenant _, hnext.erase⟩
      · exact ⟨.deletedForTenant _, hnext⟩

/-! ### Redis -/

theorem RedisHolds.get (h : RedisHolds platform known.held keyPrefix db)
    (hknown : known.Sound platform) :
    db.get now (RedisX424Store.requirementKey keyPrefix dependencyId) =
      (known.shown platform.dates now dependencyId).map fun stored =>
        (stored.text platform).value := by
  unfold RedisTable.get Cells.live KnownRequirements.shown
  rw [h dependencyId]
  cases hheld : known.held dependencyId with
  | none => rfl
  | some stored =>
      obtain ⟨e, hexpires⟩ := (hknown.named hheld).2.expiresAt
      simp only [Option.map_some, Option.filter_some, StoredDocument.text, hexpires,
        Option.getD_some, StoredDocument.expired_eq hexpires, ← decide_not, Int.not_le]
      split_ifs <;> rfl

theorem RedisHolds.found (h : RedisHolds platform known.held keyPrefix db)
    (hknown : known.Sound platform) {value : JsString}
    (hvalue : db.get now (RedisX424Store.requirementKey keyPrefix dependencyId) = some value) :
    ∃ stored, known.shown platform.dates now dependencyId = some stored ∧ stored.Kept platform ∧
      RedisX424Store.parseStoredRequirement platform.toRuntime value =
        .ok (stored.document.normalized, stored.tenantId) ∧
      parsedLe (platform.dates.parse stored.document.normalized.expiresAt) now = false := by
  rw [h.get hknown] at hvalue
  obtain ⟨stored, hstored, rfl⟩ := Option.map_eq_some_iff.mp hvalue
  obtain ⟨hheld, hcurrent⟩ := KnownRequirements.shown_eq_some.mp hstored
  have hkept := (hknown.named hheld).2
  exact ⟨stored, hstored, hkept, hkept.parse, hcurrent⟩

theorem RedisHolds.not_found (h : RedisHolds platform known.held keyPrefix db)
    (hknown : known.Sound platform)
    (hvalue : db.get now (RedisX424Store.requirementKey keyPrefix dependencyId) = none) :
    known.shown platform.dates now dependencyId = none := by
  rw [h.get hknown] at hvalue
  exact Option.map_eq_none_iff.mp hvalue

theorem RedisHolds.answer (h : RedisHolds platform known.held keyPrefix db)
    (hknown : known.Sound platform) {request : DocumentRequest} {others : Cells JsString _}
    (hfresh : PutsFresh platform maximumEntries now request (known, entries, db, others))
    (hasks : AsksInTime platform jsonb now request (known, entries, db, others)) :
    ((RedisX424Store.documentStore platform.toRuntime keyPrefix).answer now request db).1.Same
        (known.answer platform.dates now request).1 ∧
      RedisHolds platform (known.answer platform.dates now request).2.held keyPrefix
        ((RedisX424Store.documentStore platform.toRuntime keyPrefix).answer now request db).2 := by
  cases request with
  | putFor requirement tenantId =>
      obtain ⟨-, hwell, hunused, htenant, ⟨e, hexpires, hfuture⟩, -⟩ := hfresh
      have hkept := hasks.kept hwell htenant hexpires
      have hempty : requirement.document.dependencyId.isEmpty = false :=
        List.isEmpty_eq_false_iff.mpr hkept.writable.dependencyId
      have hfutureExpiry : futureExpiry (some e) now = some e := by
        simp [futureExpiry, Option.filter_some, hfuture]
      have hfree : db (RedisX424Store.requirementKey keyPrefix requirement.document.dependencyId) =
          none := by
        rw [h, hknown.used hunused]
        rfl
      have hput : RedisX424Store.putDocument platform.toRuntime keyPrefix requirement tenantId now
          db = (.ok (), db.put
            (RedisX424Store.requirementKey keyPrefix requirement.document.dependencyId)
            (StoredDocument.text platform ⟨requirement.document, tenantId⟩)) := by
        simp only [RedisX424Store.putDocument, htenant, hasks.plain, Bool.not_true,
          Bool.false_eq_true, if_false, RedisX424Store.setOnce, hempty, hexpires, hfutureExpiry,
          RedisTable.setNx, Cells.live, hfree, Option.filter_none, Option.isSome_none,
          StoredDocument.text, Option.getD_some]
      simp only [DocumentStore.answer, RedisX424Store.documentStore, RedisX424Store.documents,
        hput]
      exact ⟨.stored _, h.write (some ⟨requirement.document, tenantId⟩)⟩
  | get dependencyId =>
      have hempty : dependencyId.isEmpty = false := List.isEmpty_eq_false_iff.mpr hasks.1
      simp only [DocumentStore.answer, RedisX424Store.documentStore, RedisX424Store.getDocument,
        hempty, Bool.false_eq_true, if_false, KnownRequirements.answer]
      cases hvalue : db.get now (RedisX424Store.requirementKey keyPrefix dependencyId) with
      | none =>
          rw [h.not_found hknown hvalue]
          exact ⟨.found .none, h⟩
      | some value =>
          obtain ⟨stored, hshown, hkept, hparse, hcurrent⟩ := h.found hknown hvalue
          simp only [hshown, hparse, hcurrent, Bool.false_eq_true, if_false]
          exact ⟨.found (.some hkept.normalized), h⟩
  | getForTenant dependencyId tenantId =>
      simp only [DocumentStore.answer, RedisX424Store.documentStore,
        RedisX424Store.getDocumentForTenant, KnownRequirements.answer]
      split_ifs with htenant hempty
      · exact ⟨.refused _, h⟩
      · exact absurd (List.isEmpty_iff.mp hempty) (hasks (by simpa using htenant)).1
      · cases hvalue : db.get now (RedisX424Store.requirementKey keyPrefix dependencyId) with
        | none =>
            rw [KnownRequirements.shownTo, h.not_found hknown hvalue]
            exact ⟨.found .none, h⟩
        | some value =>
            obtain ⟨stored, hshown, hkept, hparse, hcurrent⟩ := h.found hknown hvalue
            simp only [KnownRequirements.shownTo, hshown, hparse, hcurrent, Bool.false_eq_true,
              if_false, Option.filter_some, decide_eq_true_eq]
            split_ifs
            · exact ⟨.found (.some hkept.normalized), h⟩
            · exact ⟨.found .none, h⟩
  | delete dependencyId =>
      have hempty : dependencyId.isEmpty = false := List.isEmpty_eq_false_iff.mpr hasks
      simp only [DocumentStore.answer, RedisX424Store.documentStore, RedisX424Store.documents,
        RedisX424Store.deleteDocument, hempty, Bool.false_eq_true, if_false]
      exact ⟨.deleted _, h.write none⟩
  | deleteForTenant dependencyId tenantId =>
      simp only [DocumentStore.answer, RedisX424Store.documentStore,
        RedisX424Store.deleteDocumentForTenant, KnownRequirements.answer]
      cases htenant : isTenantId tenantId with
      | false => exact ⟨.deletedForTenant _, h⟩
      | true =>
          have hempty : dependencyId.isEmpty = false :=
            List.isEmpty_eq_false_iff.mpr (hasks htenant)
          simp only [hempty, Bool.not_true, Bool.false_eq_true, if_false]
          cases hvalue : db.get now (RedisX424Store.requirementKey keyPrefix dependencyId) with
          | none =>
              rw [KnownRequirements.shownTo, h.not_found hknown hvalue]
              exact ⟨.deletedForTenant _, h⟩
          | some value =>
              obtain ⟨stored, hshown, -, hparse, hcurrent⟩ := h.found hknown hvalue
              simp only [KnownRequirements.shownTo, hshown, hparse, hcurrent, Bool.false_eq_true,
                or_false, Option.filter_some, decide_eq_true_eq, ne_eq]
              by_cases howner : stored.tenantId = some tenantId
              · simp only [howner, not_true_eq_false, if_true, if_false, Option.isSome_some]
                exact ⟨.deletedForTenant _, h.write none⟩
              · simp only [howner, not_false_eq_true, if_true, if_false, Option.isSome_none,
                  Bool.false_eq_true]
                exact ⟨.deletedForTenant _, h⟩

/-! ### PostgreSQL -/

theorem PostgresHolds.expired_iff {stored : StoredDocument}
    {row : Cell PostgresX424Store.RequirementRow} (hrow : stored.InRow platform row)
    (hintime : stored.document.OutsideLastSecond platform now) :
    dateStringMs row.expiresAt ≤ now ↔ stored.expired platform.dates now = true := by
  rw [StoredDocument.expired_eq hrow.expiresAt, decide_eq_true_eq]
  constructor
  · intro hlate
    exact (hintime _ hrow.expiresAt).resolve_left (Int.not_lt.mpr hlate)
  · exact Int.le_trans (dateStringMs_le _)

theorem PostgresHolds.shown_none (h : PostgresHolds platform known.held now rows)
    (hrow : rows dependencyId = none) :
    known.shown platform.dates now dependencyId = none :=
  KnownRequirements.shown_eq_none.mpr fun _ hheld => h.no_row hrow hheld

theorem PostgresHolds.answer (h : PostgresHolds platform known.held now rows)
    (hknown : known.Sound platform) {request : DocumentRequest}
    (hfresh : PutsFresh platform maximumEntries now request (known, entries, db, rows))
    (hasks : AsksInTime platform jsonb now request (known, entries, db, rows)) :
    ((PostgresX424Store.documentStore platform.toRuntime jsonb).answer now request rows).1.Same
        (known.answer platform.dates now request).1 ∧
      PostgresHolds platform (known.answer platform.dates now request).2.held now
        ((PostgresX424Store.documentStore platform.toRuntime jsonb).answer now request rows).2 := by
  cases request with
  | putFor requirement tenantId =>
      obtain ⟨-, hwell, hunused, htenant, ⟨e, hexpires, -⟩, -⟩ := hfresh
      have hkept := hasks.kept hwell htenant hexpires
      obtain ⟨value, hvalue⟩ := Option.isSome_iff_exists.mp hasks.jsonb
      have hfree : rows requirement.document.dependencyId = none := by
        cases hrow : rows requirement.document.dependencyId with
        | none => rfl
        | some row =>
            obtain ⟨stored, hheld, -⟩ := h.row hrow
            cases (hknown.used hunused).symm.trans hheld
      have hput : PostgresX424Store.putDocument platform.toRuntime jsonb requirement tenantId now
          rows = (.ok (), rows.put requirement.document.dependencyId ⟨⟨value, tenantId⟩, e⟩) := by
        simp only [PostgresX424Store.putDocument, htenant, hasks.plain, Bool.not_true,
          Bool.false_eq_true, if_false, hvalue, hexpires, insertOnConflictDoNothing, hfree,
          Option.isSome_none]
      simp only [DocumentStore.answer, PostgresX424Store.documentStore,
        PostgresX424Store.documents, hput]
      exact ⟨.stored _, h.write (Or.inl rfl) (.some (hkept.inRow hvalue hexpires))⟩
  | get dependencyId =>
      simp only [DocumentStore.answer, PostgresX424Store.documentStore,
        PostgresX424Store.getDocument, KnownRequirements.answer]
      cases hrow : rows dependencyId with
      | none =>
          rw [h.shown_none hrow]
          exact ⟨.found .none, h⟩
      | some row =>
          obtain ⟨stored, hheld, hinRow⟩ := h.row hrow
          obtain ⟨again, hagain, hsame⟩ := hinRow.document
          have hexpired := PostgresHolds.expired_iff hinRow (hasks.2 stored hheld)
          simp only [hexpired, KnownRequirements.shown, hheld, Option.filter_some, hagain]
          cases hstale : stored.expired platform.dates now with
          | true => exact ⟨.found .none, h.drop hheld hstale⟩
          | false => exact ⟨.found (.some hsame), h⟩
  | getForTenant dependencyId tenantId =>
      simp only [DocumentStore.answer, PostgresX424Store.documentStore,
        PostgresX424Store.getDocumentForTenant, KnownRequirements.answer]
      cases htenant : isTenantId tenantId with
      | false => exact ⟨.refused _, h⟩
      | true =>
          simp only [Bool.not_true, Bool.false_eq_true, if_false]
          cases hrow : rows dependencyId with
          | none =>
              rw [KnownRequirements.shownTo, h.shown_none hrow]
              exact ⟨.found .none, h⟩
          | some row =>
              obtain ⟨stored, hheld, hinRow⟩ := h.row hrow
              obtain ⟨again, hagain, hsame⟩ := hinRow.document
              simp only [KnownRequirements.shownTo, KnownRequirements.shown, hheld,
                Option.filter_some, hinRow.ownerId, decide_eq_true_eq]
              by_cases howner : stored.tenantId = some tenantId
              · have hexpired := PostgresHolds.expired_iff hinRow
                  ((hasks htenant).2 stored hheld howner)
                simp only [howner, if_true, hexpired, hagain]
                cases hstale : stored.expired platform.dates now with
                | true => exact ⟨.found .none, h.drop hheld hstale⟩
                | false =>
                    simp only [Bool.not_false, if_true, Option.filter_some, howner, decide_true]
                    exact ⟨.found (.some hsame), h⟩
              · simp only [howner, if_false]
                cases stored.expired platform.dates now with
                | true => exact ⟨.found .none, h⟩
                | false =>
                    simp only [Bool.not_false, if_true, Option.filter_some, howner, decide_false,
                      Bool.false_eq_true, if_false]
                    exact ⟨.found .none, h⟩
  | delete dependencyId => exact ⟨.deleted _, h.write (Or.inl rfl) .none⟩
  | deleteForTenant dependencyId tenantId =>
      simp only [DocumentStore.answer, PostgresX424Store.documentStore,
        PostgresX424Store.deleteDocumentForTenant, KnownRequirements.answer]
      cases htenant : isTenantId tenantId with
      | false => exact ⟨.deletedForTenant _, h⟩
      | true =>
          simp only [Bool.not_true, Bool.false_eq_true, if_false]
          cases hrow : rows dependencyId with
          | none =>
              rw [KnownRequirements.shownTo, h.shown_none hrow]
              exact ⟨.deletedForTenant _, h⟩
          | some row =>
              obtain ⟨stored, hheld, hinRow⟩ := h.row hrow
              have hshown : (known.shownTo platform.dates now dependencyId tenantId).isSome =
                  decide (stored.tenantId = some tenantId ∧ now < row.expiresAt) := by
                simp only [KnownRequirements.shownTo, KnownRequirements.shown, hheld,
                  Option.filter_some, StoredDocument.expired_eq hinRow.expiresAt]
                by_cases hcurrent : row.expiresAt ≤ now
                · simp [hcurrent, Int.not_lt.mpr hcurrent]
                · by_cases howner : stored.tenantId = some tenantId <;>
                    simp [hcurrent, howner, Int.not_le.mp hcurrent, Option.filter_some]
              simp only [hinRow.ownerId, hshown, decide_eq_true_eq]
              split_ifs
              · exact ⟨.deletedForTenant _, h.write (Or.inl rfl) .none⟩
              · exact ⟨.deletedForTenant _, h⟩

end Answers

/-! ## Runs -/

section Runs

variable {platform : Platform} {jsonb : Jsonb platform.numbers} {keyPrefix : JsString}
  {maximumEntries : Nat} {time now : Instant} {request : DocumentRequest}

structure RequirementStates.Match (platform : Platform) (keyPrefix : JsString) (time : Instant)
    (s : RequirementStates) : Prop where
  known : s.1.Sound platform
  memory : MemoryHolds platform s.1.held time s.2.1
  redis : RedisHolds platform s.1.held keyPrefix s.2.2.1
  postgres : PostgresHolds platform s.1.held time s.2.2.2

theorem RequirementStates.Match.empty (time : Instant) :
    RequirementStates.empty.Match platform keyPrefix time where
  known := ⟨fun _ => rfl, fun h => (by cases h)⟩
  memory _ := Or.inl rfl
  redis _ := rfl
  postgres _ := ⟨none, Or.inl rfl, .none⟩

theorem KnownRequirements.Sound.delete {known : KnownRequirements} (h : known.Sound platform)
    (dependencyId : JsString) : (known.delete dependencyId).Sound platform := by
  constructor
  · intro id hid
    rw [known.delete_held]
    split_ifs
    · rfl
    · exact h.used hid
  · intro id stored hstored
    rw [known.delete_held] at hstored
    split_ifs at hstored
    exact h.named hstored

theorem KnownRequirements.Sound.put {known : KnownRequirements} (h : known.Sound platform)
    {stored : StoredDocument} (hkept : stored.Kept platform) :
    (known.put stored).Sound platform := by
  constructor
  · intro id hid
    obtain ⟨hne, hunused⟩ := not_or.mp (List.mem_cons.not.mp hid)
    exact (Function.update_of_ne hne _ _).trans (h.used hunused)
  · intro id other hother
    by_cases hid : id = stored.dependencyId
    · subst hid
      obtain rfl := Option.some.inj ((known.held_put_self stored).symm.trans hother)
      exact ⟨rfl, hkept⟩
    · exact h.named ((Function.update_of_ne hid _ _).symm.trans hother)

theorem KnownRequirements.Sound.answer {known : KnownRequirements} (h : known.Sound platform)
    {others : DocumentEntries × RedisDb × Cells JsString _}
    (hfresh : PutsFresh platform maximumEntries now request (known, others))
    (hasks : AsksInTime platform jsonb now request (known, others)) :
    (known.answer platform.dates now request).2.Sound platform := by
  cases request with
  | putFor requirement tenantId =>
      obtain ⟨-, hwell, -, htenant, ⟨e, hexpires, -⟩, -⟩ := hfresh
      exact h.put (hasks.kept hwell htenant hexpires)
  | get dependencyId => exact h
  | getForTenant dependencyId tenantId =>
      simp only [KnownRequirements.answer]
      split_ifs <;> exact h
  | delete dependencyId => exact h.delete dependencyId
  | deleteForTenant dependencyId tenantId =>
      simp only [KnownRequirements.answer]
      split_ifs
      · exact h
      · exact h.delete dependencyId
      · exact h

theorem requirementServers_step {s : RequirementStates} (h : s.Match platform keyPrefix time)
    (hle : time ≤ now) (hfresh : PutsFresh platform maximumEntries now request s)
    (hasks : AsksInTime platform jsonb now request s) :
    let next := (requirementServers platform jsonb maximumEntries keyPrefix).answer now request s
    AnswersKnown next.1 ∧ next.2.Match platform keyPrefix now := by
  obtain ⟨hmemory, hmemoryNext⟩ := (h.memory.later hle).answer h.known hfresh
  obtain ⟨hredis, hredisNext⟩ := h.redis.answer h.known hfresh hasks
  obtain ⟨hpostgres, hpostgresNext⟩ := (h.postgres.later hle).answer h.known hfresh hasks
  exact ⟨⟨hmemory, hredis, hpostgres⟩,
    ⟨h.known.answer hfresh hasks, hmemoryNext, hredisNext, hpostgresNext⟩⟩

end Runs

/-- The stores answer what is known to every list of calls that meets the guard. -/
def RequirementStoresEquivalent (guard : (platform : Platform) → Jsonb platform.numbers → Nat →
    Instant → DocumentRequest → RequirementStates → Prop) : Prop :=
  ∀ platform jsonb maximumEntries keyPrefix time requests,
    (requirementServers platform jsonb maximumEntries keyPrefix).Along
      (guard platform jsonb maximumEntries) time RequirementStates.empty requests →
    ∀ reply ∈ (requirementServers platform jsonb maximumEntries keyPrefix).answers
      RequirementStates.empty requests, AnswersKnown reply

namespace MidSecond

open LongRequest (platform)

def requirement : RequirementDocument :=
  { BlankUrl.received with expiresAt := js "1970-01-01T00:00:01.500Z" }

def jsonb : Jsonb platform.numbers where
  read := jsonParse platform.numbers
  same h := ⟨_, h, .refl (distinctKeys_jsonParse h)⟩

theorem jsonb_read (text : JsString) : jsonb.read text = jsonParse platform.numbers text := rfl

theorem requirement_valid : requirement.Valid platform.dates :=
  { BlankUrl.requirement_valid with expiresAt := by decide }

theorem requirement_plain : requirement.Plain platform.numbers :=
  ⟨fun _ h => (by cases h), fun _ h => (by cases h)⟩

theorem requirement_unchanged :
    HumanRequirementSchema platform.dates platform.urls requirement.toJson = some requirement :=
  (RequirementDocument.schema_toJson requirement_plain.protoFree).mpr
    ⟨requirement_valid, _, _, ⟨rfl, by decide⟩, ⟨rfl, by decide⟩, rfl⟩

theorem requirement_keepable :
    NewRequirement.Keepable platform jsonb ⟨requirement, true⟩ where
  plain := rfl
  unchanged := requirement_unchanged
  protoFree := requirement_plain.protoFree
  jsonb := by
    have hwell : requirement.toJson.WellFormed platform.numbers :=
      RequirementDocument.wellFormed_toJson requirement_valid.safeAge requirement_plain.wellFormed
    rw [jsonb_read, jsonParse_canonicalJson hwell]
    rfl

theorem requirement_expiresAt : platform.dates.parse requirement.expiresAt = some 1500 := by
  decide +kernel

def put : DocumentRequest := .putFor ⟨requirement, true⟩ none

def requests (now : Instant) : List (Instant × DocumentRequest) :=
  [(0, put), (now, .get requirement.dependencyId)]

def servers : Server RequirementStates DocumentRequest
    (DocumentReply × DocumentReply × DocumentReply × DocumentReply) :=
  requirementServers platform jsonb 10 (js "x424")

def stored : RequirementStates := (servers.answer 0 put .empty).2

theorem put_fresh : PutsFresh platform 10 0 put .empty :=
  ⟨Option.isSome_of_eq_some requirement_unchanged, requirement_plain.wellFormed,
    List.not_mem_nil, rfl, ⟨1500, requirement_expiresAt, by decide⟩, by decide⟩

theorem stored_match : stored.Match platform (js "x424") 0 :=
  (requirementServers_step (.empty 0) (Int.le_refl 0) put_fresh requirement_keepable).2

theorem stored_held :
    stored.1.held requirement.dependencyId = some ⟨requirement, none⟩ :=
  KnownRequirements.held_put_self .empty ⟨requirement, none⟩

theorem requirement_unexpired {now : Instant} (h : now < 1500) :
    StoredDocument.expired platform.dates ⟨requirement, none⟩ now = false := by
  rw [StoredDocument.expired_eq requirement_expiresAt]
  exact decide_eq_false (Int.not_le.mpr h)

end MidSecond

open MidSecond in
/-- PostgreSQL does not show the requirement in the half second before it expires. -/
theorem requirementStores_differ_before_expiry :
    ¬ RequirementStoresEquivalent fun platform _ maximumEntries now request s =>
      PutsFresh platform maximumEntries now request s := by
  intro h
  have hreply := h LongRequest.platform jsonb 10 (js "x424") 0 (requests 1000)
    ⟨Int.le_refl _, put_fresh, by decide, trivial, trivial⟩
    (servers.answer 1000 (.get requirement.dependencyId) stored).1
    (List.mem_cons_of_mem _ List.mem_cons_self)
  have hknown : (stored.1.answer LongRequest.platform.dates 1000
      (.get requirement.dependencyId)).1 = .found (.ok (some requirement)) := by
    rw [KnownRequirements.answer, KnownRequirements.shown, stored_held,
      Option.filter_some_pos (by rw [requirement_unexpired (by decide)]; rfl)]
    rfl
  have hpostgres : ((PostgresX424Store.documentStore LongRequest.platform.toRuntime jsonb).answer
      1000 (.get requirement.dependencyId) stored.2.2.2).1 = .found (.ok none) := by
    simp only [DocumentStore.answer, PostgresX424Store.documentStore,
      PostgresX424Store.getDocument]
    cases hrow : stored.2.2.2 requirement.dependencyId with
    | none => rfl
    | some row =>
        obtain ⟨other, hother, hinRow⟩ := stored_match.postgres.row hrow
        obtain rfl := Option.some.inj (stored_held.symm.trans hother)
        have hexpiresAt := Option.some.inj (requirement_expiresAt.symm.trans hinRow.expiresAt)
        have hstale : dateStringMs row.expiresAt ≤ 1000 := by
          rw [← hexpiresAt]
          decide
        simp only [hstale, if_true]
        rfl
  obtain ⟨-, -, hsame⟩ := hreply
  simp only [servers, requirementServers, Server.prod] at hsame
  rw [hknown, hpostgres] at hsame
  cases hsame with
  | found hrel => cases hrel

theorem requirementStores_equivalent {platform : Platform} {jsonb : Jsonb platform.numbers}
    {maximumEntries : Nat} {keyPrefix : JsString} {time : Instant}
    {requests : List (Instant × DocumentRequest)}
    (halong : (requirementServers platform jsonb maximumEntries keyPrefix).Along
      (fun now request s => PutsFresh platform maximumEntries now request s ∧
        AsksInTime platform jsonb now request s) time RequirementStates.empty requests) :
    ∀ reply ∈ (requirementServers platform jsonb maximumEntries keyPrefix).answers
      RequirementStates.empty requests, AnswersKnown reply :=
  Server.forall_answers_at (I := RequirementStates.Match platform keyPrefix)
    (fun h hle hguard => requirementServers_step h hle hguard.1 hguard.2) (.empty time) halong

open MidSecond in
/-- Before its last second all stores show it. -/
theorem requirementStores_equivalent_inTime :
    AnswersKnown (servers.answer 999 (.get requirement.dependencyId) stored).1 :=
  @requirementStores_equivalent LongRequest.platform jsonb 10 (js "x424") 0 (requests 999)
    ⟨Int.le_refl _, ⟨put_fresh, requirement_keepable⟩, by decide,
      ⟨trivial, by decide, fun other hheld => by
        obtain rfl := Option.some.inj (stored_held.symm.trans hheld)
        intro e he
        obtain rfl := Option.some.inj (requirement_expiresAt.symm.trans he)
        exact Or.inl (by decide)⟩,
      trivial⟩ _ (List.mem_cons_of_mem _ List.mem_cons_self)

end X424
