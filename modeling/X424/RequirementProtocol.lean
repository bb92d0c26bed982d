import X424.RequirementLaws

/-!
# Calls on the requirement stores, command by command

A call on a store is a first command and, for some calls, a second one; other
calls may come in between.  In memory the only such gap is the `await` of
`deleteForTenant`.  Made at once, the commands are the operations of
`X424.RequirementStore`.
-/

namespace X424

open Foundation

/-- `calledAt` is the time that the caller passes, or that the call reads when it is made. -/
structure RequirementCall where
  request : RequirementRequest
  calledAt : Instant
  deriving DecidableEq, Repr

namespace RequirementRequest

def dependencyId : RequirementRequest → JsString
  | .putFor requirement _ => requirement.dependencyId
  | .get dependencyId => dependencyId
  | .getForTenant dependencyId _ => dependencyId
  | .delete dependencyId => dependencyId
  | .deleteForTenant dependencyId _ => dependencyId

def tenant : RequirementRequest → Option JsString
  | .putFor _ tenantId => tenantId
  | .getForTenant _ tenantId => some tenantId
  | .deleteForTenant _ tenantId => some tenantId
  | .get _ => none
  | .delete _ => none

end RequirementRequest

inductive SecondCommand where
  | cleanUp (dependencyId : JsString)
  | remove (dependencyId : JsString) (stored : StoredRequirement)
  deriving DecidableEq, Repr

def SecondCommand.dependencyId : SecondCommand → JsString
  | .cleanUp dependencyId => dependencyId
  | .remove dependencyId _ => dependencyId

structure RequirementProtocol (ρ : Type) where
  empty : ρ
  /-- A call is made and its first command executed at the same time. -/
  prompt : Bool
  hasRoom : (now : Instant) → ρ → Bool
  first : RequirementCall → (now : Instant) → ρ → (RequirementReply ⊕ SecondCommand) × ρ
  /-- `readAt` is the clock of the caller after the first command. -/
  second : SecondCommand → (readAt now : Instant) → ρ → RequirementReply × ρ

namespace RequirementProtocol

variable {ρ : Type} (P : RequirementProtocol ρ)

def complete (now : Instant) : (RequirementReply ⊕ SecondCommand) × ρ → RequirementReply × ρ
  | (.inl reply, s) => (reply, s)
  | (.inr command, s) => P.second command now now s

def atOnce (now : Instant) (request : RequirementRequest) (s : ρ) : RequirementReply × ρ :=
  P.complete now (P.first ⟨request, now⟩ now s)

end RequirementProtocol

/-! ## In memory -/

namespace InMemoryRequirementStore

variable (maximumEntries : Nat)

def first (call : RequirementCall) (now : Instant) (entries : RequirementEntries) :
    (RequirementReply ⊕ SecondCommand) × RequirementEntries :=
  match call.request with
  | .putFor requirement tenantId =>
      (putFor maximumEntries requirement tenantId now entries).map (.inl ∘ .stored) id
  | .get dependencyId =>
      (get dependencyId call.calledAt now entries).map (.inl ∘ .found) id
  | .getForTenant dependencyId tenantId =>
      (getForTenant dependencyId tenantId call.calledAt now entries).map (.inl ∘ .found) id
  | .delete dependencyId => (delete dependencyId now entries).map (.inl ∘ .deleted) id
  | .deleteForTenant dependencyId tenantId =>
      if !isTenantId tenantId then (.inl (.deletedForTenant (.error invalidTenantId)), entries)
      else
        match getEntry dependencyId now entries with
        | (none, entries) => (.inl (.deletedForTenant (.ok false)), entries)
        | (some stored, entries) =>
            if stored.tenantId = some tenantId then (.inr (.remove dependencyId stored), entries)
            else (.inl (.deletedForTenant (.ok false)), entries)

/-- `Map.delete` answers whether there was an entry. -/
def second (command : SecondCommand) (_readAt _now : Instant) (entries : RequirementEntries) :
    RequirementReply × RequirementEntries :=
  match command with
  | .cleanUp dependencyId => (.found (.ok none), entries.erase dependencyId)
  | .remove dependencyId _ =>
      (.deletedForTenant (.ok (entries.find dependencyId).isSome), entries.erase dependencyId)

def protocol : RequirementProtocol RequirementEntries where
  empty := Table.empty
  prompt := true
  hasRoom now entries := (prune now entries).size < maximumEntries
  first := first maximumEntries
  second := second

theorem getEntry_finds {dependencyId : JsString} {now : Instant}
    {entries next : RequirementEntries} {stored : StoredRequirement}
    (h : getEntry dependencyId now entries = (some stored, next)) :
    next.find dependencyId = some stored ∧ next = entries ∧ stored.expired now = false := by
  unfold getEntry at h
  cases hfound : entries.find dependencyId with
  | none => simp [hfound] at h
  | some other =>
      cases hexpired : other.expired now with
      | true => simp [hfound, hexpired] at h
      | false =>
          simp only [hfound, hexpired, Bool.false_eq_true, if_false, Prod.mk.injEq,
            Option.some.injEq] at h
          obtain ⟨rfl, rfl⟩ := h
          exact ⟨hfound, rfl, hexpired⟩

theorem protocol_atOnce (now : Instant) (request : RequirementRequest)
    (entries : RequirementEntries) :
    (protocol maximumEntries).atOnce now request entries =
      (inMemoryRequirementStore maximumEntries).answer now request entries := by
  cases request with
  | putFor requirement tenantId => rfl
  | get dependencyId => rfl
  | getForTenant dependencyId tenantId => rfl
  | delete dependencyId => rfl
  | deleteForTenant dependencyId tenantId =>
      simp only [RequirementProtocol.atOnce, protocol, first, RequirementStore.answer,
        inMemoryRequirementStore, deleteForTenant]
      cases isTenantId tenantId with
      | false => rfl
      | true =>
          simp only [Bool.not_true, Bool.false_eq_true, if_false]
          cases hentry : getEntry dependencyId now entries with
          | mk found next =>
            cases found with
            | none => rfl
            | some stored =>
                have hfind : next.find dependencyId = some stored := (getEntry_finds hentry).1
                by_cases howner : stored.tenantId = some tenantId <;>
                  simp [howner, RequirementProtocol.complete, second, hfind]

end InMemoryRequirementStore

/-! ## Redis -/

namespace RedisX424Store

variable (keyPrefix : JsString)

/-- `#putRequirement` checks the expiry when it is called. -/
def setRequirement (requirement : HumanRequirement) (tenantId : Option JsString)
    (calledAt now : Instant) (db : RedisTable StoredRequirement) :
    Except JsError Unit × RedisTable StoredRequirement :=
  if !tenantId.all isTenantId then (.error invalidTenantId, db)
  else if requirement.dependencyId.isEmpty then (.error ⟨js "x424 store ID is required"⟩, db)
  else
    match futureExpiry requirement.expiresAt calledAt with
    | none => (.error ⟨js "Invalid or expired entry"⟩, db)
    | some expiresAtMs =>
        match db.setNx now (requirementKey keyPrefix requirement.dependencyId)
            ⟨requirement, tenantId⟩ expiresAtMs with
        | (true, db) => (.ok (), db)
        | (false, db) => (.error ⟨js "Dependency ID already exists"⟩, db)

def readFirst (dependencyId : JsString) (shows : StoredRequirement → Bool)
    (calledAt now : Instant) (db : RedisTable StoredRequirement) :
    (RequirementReply ⊕ SecondCommand) × RedisTable StoredRequirement :=
  if dependencyId.isEmpty then (.inl (.found (.error ⟨js "x424 store ID is required"⟩)), db)
  else
    match db.get now (requirementKey keyPrefix dependencyId) with
    | none => (.inl (.found (.ok none)), db)
    | some stored =>
        if stored.expired calledAt then (.inr (.cleanUp dependencyId), db)
        else if shows stored then (.inl (.found (.ok (some stored.requirement))), db)
        else (.inl (.found (.ok none)), db)

def first (call : RequirementCall) (now : Instant) (db : RedisTable StoredRequirement) :
    (RequirementReply ⊕ SecondCommand) × RedisTable StoredRequirement :=
  match call.request with
  | .putFor requirement tenantId =>
      (setRequirement keyPrefix requirement tenantId call.calledAt now db).map
        (.inl ∘ .stored) id
  | .get dependencyId => readFirst keyPrefix dependencyId (fun _ => true) call.calledAt now db
  | .getForTenant dependencyId tenantId =>
      if !isTenantId tenantId then (.inl (.found (.error invalidTenantId)), db)
      else
        readFirst keyPrefix dependencyId (fun stored => stored.tenantId = some tenantId)
          call.calledAt now db
  | .delete dependencyId =>
      (deleteRequirement keyPrefix dependencyId now db).map (.inl ∘ .deleted) id
  | .deleteForTenant dependencyId tenantId =>
      if !isTenantId tenantId then (.inl (.deletedForTenant (.error invalidTenantId)), db)
      else if dependencyId.isEmpty then
        (.inl (.deletedForTenant (.error ⟨js "x424 store ID is required"⟩)), db)
      else
        match db.get now (requirementKey keyPrefix dependencyId) with
        | none => (.inl (.deletedForTenant (.ok false)), db)
        | some stored =>
            if stored.tenantId = some tenantId then (.inr (.remove dependencyId stored), db)
            else (.inl (.deletedForTenant (.ok false)), db)

def second (command : SecondCommand) (readAt now : Instant) (db : RedisTable StoredRequirement) :
    RequirementReply × RedisTable StoredRequirement :=
  match command with
  | .cleanUp dependencyId =>
      (.found (.ok none), db.erase (requirementKey keyPrefix dependencyId))
  | .remove dependencyId stored =>
      if stored.expired readAt then (.deletedForTenant (.ok false), db)
      else if db.get now (requirementKey keyPrefix dependencyId) = some stored then
        (.deletedForTenant (.ok true), db.erase (requirementKey keyPrefix dependencyId))
      else (.deletedForTenant (.ok false), db)

def protocol : RequirementProtocol (RedisTable StoredRequirement) where
  empty := Cells.empty
  prompt := false
  hasRoom _ _ := true
  first := first keyPrefix
  second := second keyPrefix

theorem setRequirement_self (requirement : HumanRequirement) (tenantId : Option JsString)
    (now : Instant) (db : RedisTable StoredRequirement) :
    setRequirement keyPrefix requirement tenantId now now db =
      putRequirement keyPrefix requirement tenantId now db := by
  unfold setRequirement putRequirement setOnce
  split_ifs
  · rfl
  · rfl
  · cases futureExpiry requirement.expiresAt now with
    | none => rfl
    | some e =>
        rcases hset : db.setNx now (redisKey keyPrefix (js "requirement") requirement.dependencyId)
          (⟨requirement, tenantId⟩ : StoredRequirement) e with ⟨_ | _, next⟩ <;>
          simp only [requirementKey, hset]

theorem complete_readFirst (dependencyId : JsString) (shows : StoredRequirement → Bool)
    (now : Instant) (db : RedisTable StoredRequirement) :
    (protocol keyPrefix).complete now (readFirst keyPrefix dependencyId shows now now db) =
      match readRequirement keyPrefix dependencyId now now db with
      | (.ok found, db) =>
          (.found (.ok ((found.filter shows).map StoredRequirement.requirement)), db)
      | (.error error, db) => (.found (.error error), db) := by
  unfold readFirst readRequirement
  split_ifs
  · rfl
  · cases db.get now (requirementKey keyPrefix dependencyId) with
    | none => rfl
    | some stored =>
        cases hexpired : stored.expired now with
        | true =>
            simp only [hexpired, if_true]
            rfl
        | false =>
            simp only [hexpired, Bool.false_eq_true, if_false, Option.filter_some]
            split_ifs <;> rfl

theorem protocol_atOnce (now : Instant) (request : RequirementRequest)
    (db : RedisTable StoredRequirement) :
    (protocol keyPrefix).atOnce now request db =
      (requirements keyPrefix).answer now request db := by
  cases request with
  | putFor requirement tenantId =>
      simp only [RequirementStore.answer, requirements, ← setRequirement_self]
      rfl
  | get dependencyId =>
      refine (complete_readFirst keyPrefix dependencyId (fun _ => true) now db).trans ?_
      simp only [RequirementStore.answer, requirements, getRequirement]
      rcases readRequirement keyPrefix dependencyId now now db with ⟨_ | found, next⟩
      · rfl
      · cases found <;> rfl
  | getForTenant dependencyId tenantId =>
      simp only [RequirementProtocol.atOnce, protocol, first, RequirementStore.answer,
        requirements, getRequirementForTenant]
      split_ifs
      · rfl
      · refine (complete_readFirst keyPrefix dependencyId _ now db).trans ?_
        rcases readRequirement keyPrefix dependencyId now now db with ⟨_ | found, next⟩ <;> rfl
  | delete dependencyId => rfl
  | deleteForTenant dependencyId tenantId =>
      simp only [RequirementProtocol.atOnce, protocol, first, RequirementStore.answer,
        requirements, deleteRequirementForTenant]
      split_ifs
      · rfl
      · rfl
      · cases hget : db.get now (requirementKey keyPrefix dependencyId) with
        | none => rfl
        | some stored =>
            by_cases howner : stored.tenantId = some tenantId
            · cases hexpired : stored.expired now <;>
                simp [howner, hexpired, RequirementProtocol.complete, second, hget]
            · simp [howner, RequirementProtocol.complete]

end RedisX424Store

/-! ## PostgreSQL -/

namespace PostgresX424Store

def readFirst (dependencyId : JsString) (row : Option (Cell StoredRequirement))
    (calledAt : Instant) (rows : Cells JsString StoredRequirement) :
    (RequirementReply ⊕ SecondCommand) × Cells JsString StoredRequirement :=
  match row with
  | none => (.inl (.found (.ok none)), rows)
  | some row =>
      if dateStringMs row.expiresAt ≤ calledAt then (.inr (.cleanUp dependencyId), rows)
      else (.inl (.found (.ok (some row.value.requirement))), rows)

def first (call : RequirementCall) (now : Instant) (rows : Cells JsString StoredRequirement) :
    (RequirementReply ⊕ SecondCommand) × Cells JsString StoredRequirement :=
  match call.request with
  | .putFor requirement tenantId =>
      (putRequirement requirement tenantId now rows).map (.inl ∘ .stored) id
  | .get dependencyId => readFirst dependencyId (rows dependencyId) call.calledAt rows
  | .getForTenant dependencyId tenantId =>
      if !isTenantId tenantId then (.inl (.found (.error invalidTenantId)), rows)
      else
        readFirst dependencyId
          ((rows dependencyId).filter fun row => row.value.tenantId = some tenantId)
          call.calledAt rows
  | .delete dependencyId => (deleteRequirement dependencyId now rows).map (.inl ∘ .deleted) id
  | .deleteForTenant dependencyId tenantId =>
      (deleteRequirementForTenant dependencyId tenantId now rows).map
        (.inl ∘ .deletedForTenant) id

/-- `deleteForTenant` is a single statement. -/
def second (command : SecondCommand) (_readAt _now : Instant)
    (rows : Cells JsString StoredRequirement) :
    RequirementReply × Cells JsString StoredRequirement :=
  match command with
  | .cleanUp dependencyId => (.found (.ok none), rows.erase dependencyId)
  | .remove _ _ => (.deletedForTenant (.ok false), rows)

def protocol : RequirementProtocol (Cells JsString StoredRequirement) where
  empty := Cells.empty
  prompt := false
  hasRoom _ _ := true
  first := first
  second := second

theorem protocol_atOnce (now : Instant) (request : RequirementRequest)
    (rows : Cells JsString StoredRequirement) :
    protocol.atOnce now request rows = requirements.answer now request rows := by
  have hread : ∀ dependencyId (row : Option (Cell StoredRequirement)),
      protocol.complete now (readFirst dependencyId row now rows) =
        (readRequirement dependencyId row now rows).map .found id := by
    intro dependencyId row
    cases row with
    | none => rfl
    | some row =>
        simp only [readFirst, readRequirement]
        split_ifs <;> rfl
  cases request with
  | putFor requirement tenantId => rfl
  | get dependencyId => exact hread dependencyId (rows dependencyId)
  | getForTenant dependencyId tenantId =>
      simp only [RequirementProtocol.atOnce, protocol, first, RequirementStore.answer,
        requirements, getRequirementForTenant]
      split_ifs
      · rfl
      · exact hread dependencyId _
  | delete dependencyId => rfl
  | deleteForTenant dependencyId tenantId => rfl

end PostgresX424Store

end X424
