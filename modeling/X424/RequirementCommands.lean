import X424.RequirementProtocol

/-!
# What the commands of the requirement stores do

The three stores differ in what they accept, in the ids that they refuse, in
what counts as expired once it is read and in how many commands a removal
takes.  Apart from that a first command does the same in each of them, and what
it does is decided by the entry under its id.
-/

namespace X424

open Foundation

/-! ## Plans -/

inductive CommandEffect where
  | keep
  | drop
  | store (stored : StoredRequirement)
  deriving DecidableEq, Repr

structure CommandPolicy where
  accepts : StoredRequirement → (calledAt now : Instant) → (found : Option StoredRequirement) →
    Except JsError Unit
  refuses : (dependencyId : JsString) → Option JsError
  stale : (calledAt : Instant) → StoredRequirement → Bool
  removesAtOnce : Bool

namespace CommandPolicy

variable (policy : CommandPolicy)

def planRead (dependencyId : JsString) (calledAt : Instant) (found : Option StoredRequirement) :
    (RequirementReply ⊕ SecondCommand) × CommandEffect :=
  match policy.refuses dependencyId, found with
  | some error, _ => (.inl (.found (.error error)), .keep)
  | none, none => (.inl (.found (.ok none)), .keep)
  | none, some stored =>
      if policy.stale calledAt stored then (.inr (.cleanUp dependencyId), .keep)
      else (.inl (.found (.ok (some stored.requirement))), .keep)

def planRemoval (dependencyId : JsString) (now : Instant) (found : Option StoredRequirement) :
    (RequirementReply ⊕ SecondCommand) × CommandEffect :=
  match policy.refuses dependencyId, found with
  | some error, _ => (.inl (.deletedForTenant (.error error)), .keep)
  | none, none => (.inl (.deletedForTenant (.ok false)), .keep)
  | none, some stored =>
      if !policy.removesAtOnce then (.inr (.remove dependencyId stored), .keep)
      else if stored.expired now then (.inl (.deletedForTenant (.ok false)), .keep)
      else (.inl (.deletedForTenant (.ok true)), .drop)

def plan (call : RequirementCall) (now : Instant) (found : Option StoredRequirement) :
    (RequirementReply ⊕ SecondCommand) × CommandEffect :=
  match call.request with
  | .putFor requirement tenantId =>
      match policy.accepts ⟨requirement, tenantId⟩ call.calledAt now found with
      | .ok () => (.inl (.stored (.ok ())), .store ⟨requirement, tenantId⟩)
      | .error error => (.inl (.stored (.error error)), .keep)
  | .get dependencyId => policy.planRead dependencyId call.calledAt found
  | .getForTenant dependencyId tenantId =>
      if !isTenantId tenantId then (.inl (.found (.error invalidTenantId)), .keep)
      else
        policy.planRead dependencyId call.calledAt
          (found.filter fun stored => stored.tenantId = some tenantId)
  | .delete dependencyId =>
      match policy.refuses dependencyId with
      | some error => (.inl (.deleted (.error error)), .keep)
      | none => (.inl (.deleted (.ok ())), .drop)
  | .deleteForTenant dependencyId tenantId =>
      if !isTenantId tenantId then (.inl (.deletedForTenant (.error invalidTenantId)), .keep)
      else
        policy.planRemoval dependencyId now
          (found.filter fun stored => stored.tenantId = some tenantId)

theorem planRead_keeps (dependencyId : JsString) (calledAt : Instant)
    (found : Option StoredRequirement) :
    (policy.planRead dependencyId calledAt found).2 = .keep := by
  unfold planRead
  cases policy.refuses dependencyId with
  | some error => rfl
  | none =>
      cases found with
      | none => rfl
      | some stored =>
          simp only
          split_ifs <;> rfl

variable {policy} {call : RequirementCall} {now : Instant} {found : Option StoredRequirement}

def Silent (reply : RequirementReply) : Prop :=
  reply ≠ .stored (.ok ()) ∧ (∀ requirement, reply ≠ .found (.ok (some requirement))) ∧
    reply ≠ .deleted (.ok ()) ∧ reply ≠ .deletedForTenant (.ok true)

inductive Planned (policy : CommandPolicy) (call : RequirementCall)
    (found : Option StoredRequirement) :
    RequirementReply ⊕ SecondCommand → CommandEffect → Prop
  | put (requirement tenantId) (h : call.request = .putFor requirement tenantId) :
      Planned policy call found (.inl (.stored (.ok ()))) (.store ⟨requirement, tenantId⟩)
  | shown (stored) (hfound : found = some stored)
      (hstale : policy.stale call.calledAt stored = false)
      (howner : ∀ tenantId, call.request.tenant = some tenantId →
        stored.tenantId = some tenantId) :
      Planned policy call found (.inl (.found (.ok (some stored.requirement)))) .keep
  | delete (dependencyId) (h : call.request = .delete dependencyId) :
      Planned policy call found (.inl (.deleted (.ok ()))) .drop
  | remove (stored) (dependencyId tenantId) (hfound : found = some stored)
      (h : call.request = .deleteForTenant dependencyId tenantId)
      (howner : stored.tenantId = some tenantId) :
      Planned policy call found (.inl (.deletedForTenant (.ok true))) .drop
  | between (stored command) (hfound : found = some stored)
      (hid : command.dependencyId = call.request.dependencyId)
      (howner : ∀ tenantId, call.request.tenant = some tenantId →
        stored.tenantId = some tenantId)
      (hremove : ∀ dependencyId read, command = .remove dependencyId read →
        ∃ tenantId, call.request = .deleteForTenant dependencyId tenantId) :
      Planned policy call found (.inr command) .keep
  | silent (reply) (h : Silent reply) : Planned policy call found (.inl reply) .keep

private theorem planned_read {dependencyId : JsString} {shown : Option StoredRequirement}
    (hid : call.request.dependencyId = dependencyId)
    (hshown : ∀ stored, shown = some stored → found = some stored ∧
      ∀ tenantId, call.request.tenant = some tenantId → stored.tenantId = some tenantId) :
    Planned policy call found (policy.planRead dependencyId call.calledAt shown).1
      (policy.planRead dependencyId call.calledAt shown).2 := by
  unfold planRead
  cases policy.refuses dependencyId with
  | some error => exact .silent _ (by simp [Silent])
  | none =>
      cases shown with
      | none => exact .silent _ (by simp [Silent])
      | some stored =>
          obtain ⟨hfound, howner⟩ := hshown stored rfl
          cases hstale : policy.stale call.calledAt stored with
          | true =>
              simp only [hstale, if_true]
              exact .between stored (.cleanUp dependencyId) hfound hid.symm howner nofun
          | false =>
              simp only [hstale, Bool.false_eq_true, if_false]
              exact .shown stored hfound hstale howner

theorem planned_of_plan (policy : CommandPolicy) (call : RequirementCall) (now : Instant)
    (found : Option StoredRequirement) :
    Planned policy call found (policy.plan call now found).1 (policy.plan call now found).2 := by
  obtain ⟨request, calledAt⟩ := call
  cases request with
  | putFor requirement tenantId =>
      simp only [plan]
      cases policy.accepts ⟨requirement, tenantId⟩ calledAt now found with
      | ok _ => exact .put requirement tenantId rfl
      | error error => exact .silent _ (by simp [Silent])
  | get dependencyId =>
      exact planned_read rfl fun stored hstored => ⟨hstored, fun _ h => nomatch h⟩
  | getForTenant dependencyId tenantId =>
      simp only [plan]
      split_ifs
      · exact .silent _ (by simp [Silent])
      · refine planned_read rfl fun stored hstored => ?_
        obtain ⟨hfound, howner⟩ := Option.filter_eq_some_iff.mp hstored
        refine ⟨hfound, fun owner hrequest => ?_⟩
        rw [of_decide_eq_true howner]
        exact hrequest
  | delete dependencyId =>
      simp only [plan]
      cases policy.refuses dependencyId with
      | some error => exact .silent _ (by simp [Silent])
      | none => exact .delete dependencyId rfl
  | deleteForTenant dependencyId tenantId =>
      simp only [plan]
      split_ifs
      · exact .silent _ (by simp [Silent])
      · unfold planRemoval
        cases policy.refuses dependencyId with
        | some error => exact .silent _ (by simp [Silent])
        | none =>
            cases hshown : found.filter fun stored => stored.tenantId = some tenantId with
            | none => exact .silent _ (by simp [Silent])
            | some stored =>
                obtain ⟨hfound, howner⟩ := Option.filter_eq_some_iff.mp hshown
                have howner := of_decide_eq_true howner
                simp only
                split_ifs
                · refine .between stored _ hfound rfl (fun owner hrequest => ?_) ?_
                  · rw [howner]
                    exact hrequest
                  · rintro _ _ ⟨⟩
                    exact ⟨tenantId, rfl⟩
                · exact .silent _ (by simp [Silent])
                · exact .remove stored dependencyId tenantId hfound rfl howner

theorem plan_store {stored : StoredRequirement}
    (h : (policy.plan call now found).2 = .store stored) :
    call.request = .putFor stored.requirement stored.tenantId := by
  have hplanned := planned_of_plan policy call now found
  rw [h] at hplanned
  generalize (policy.plan call now found).1 = answer at hplanned
  cases hplanned with
  | put requirement tenantId hrequest => exact hrequest

theorem plan_none {tenantId : JsString} (htenant : call.request.tenant = some tenantId)
    (hput : ∀ requirement owner, call.request ≠ .putFor requirement owner) :
    (policy.plan call now none).2 = .keep := by
  have hplanned := planned_of_plan policy call now none
  generalize (policy.plan call now none).1 = answer at hplanned
  generalize (policy.plan call now none).2 = effect at hplanned
  cases hplanned with
  | put requirement owner hrequest => exact absurd hrequest (hput requirement owner)
  | delete dependencyId hrequest =>
      rw [hrequest] at htenant
      exact nomatch htenant
  | remove stored dependencyId owner hfound => exact nomatch hfound
  | shown => rfl
  | between => rfl
  | silent => rfl

theorem plan_foreign {tenantId : JsString} {stored : StoredRequirement}
    (htenant : call.request.tenant = some tenantId)
    (hput : ∀ requirement owner, call.request ≠ .putFor requirement owner)
    (howner : stored.tenantId ≠ some tenantId) :
    policy.plan call now (some stored) = policy.plan call now none := by
  obtain ⟨request, calledAt⟩ := call
  have hfilter : ∀ {owner}, owner = tenantId →
      ((some stored).filter fun stored => stored.tenantId = some owner) = none := by
    rintro owner rfl
    simp [Option.filter_some, howner]
  cases request with
  | putFor requirement owner => exact absurd rfl (hput requirement owner)
  | get dependencyId => exact nomatch htenant
  | delete dependencyId => exact nomatch htenant
  | getForTenant dependencyId owner =>
      simp only [plan, hfilter (Option.some.inj htenant), Option.filter_none]
  | deleteForTenant dependencyId owner =>
      simp only [plan, hfilter (Option.some.inj htenant), Option.filter_none]

end CommandPolicy

/-! ## Laws -/

section Laws

variable {ρ : Type} (held : ρ → JsString → Option StoredRequirement)
  (alive : Instant → StoredRequirement → Bool)

/-- The requirement that a command at `now` finds under the id. -/
def liveRequirement (now : Instant) (s : ρ) (dependencyId : JsString) :
    Option StoredRequirement :=
  (held s dependencyId).filter (alive now)

def DropsAt (before after : ρ) (dependencyId : JsString) : Prop :=
  held after dependencyId = held before dependencyId ∨ held after dependencyId = none

/-- From `now` on no command finds a difference under the id. -/
def SameAt (now : Instant) (before after : ρ) (dependencyId : JsString) : Prop :=
  ∀ later, now ≤ later → liveRequirement held alive later after dependencyId =
    liveRequirement held alive later before dependencyId

def CommandEffect.Leaves (now : Instant) (dependencyId : JsString) (before after : ρ) :
    CommandEffect → Prop
  | .keep =>
      DropsAt held before after dependencyId ∧ SameAt held alive now before after dependencyId
  | .drop => held after dependencyId = none
  | .store stored => held after dependencyId = some stored

structure Applied (now : Instant) (dependencyId : JsString) (before : ρ) (effect : CommandEffect)
    (after : ρ) : Prop where
  own : effect.Leaves held alive now dependencyId before after
  others : ∀ id, id ≠ dependencyId →
    DropsAt held before after id ∧ SameAt held alive now before after id

def RequirementProtocol.Timely (P : RequirementProtocol ρ) (call : RequirementCall)
    (now : Instant) : Prop :=
  call.calledAt ≤ now ∧ (P.prompt → call.calledAt = now)

structure CommandLaws (P : RequirementProtocol ρ) (policy : CommandPolicy) (valid : ρ → Prop) :
    Prop where
  valid_empty : valid P.empty
  held_empty : ∀ id, held P.empty id = none
  named : ∀ {s id stored}, valid s → held s id = some stored → stored.dependencyId = id
  alive_later : ∀ {now later stored}, now ≤ later → alive later stored → alive now stored
  alive_of_prompt : ∀ {now stored}, P.prompt → alive now stored = !stored.expired now
  unexpired : ∀ {s id stored calledAt now}, valid s → held s id = some stored →
    calledAt ≤ now → alive now stored → policy.stale calledAt stored = false →
    stored.expired calledAt = false
  hasRoom_mono : ∀ {now s t}, (∀ id, (liveRequirement held alive now t id).isSome →
    (liveRequirement held alive now s id).isSome) → P.hasRoom now s → P.hasRoom now t
  first : ∀ {s call now}, valid s → P.Timely call now →
    (∀ requirement tenantId, call.request = .putFor requirement tenantId → P.hasRoom now s) →
    let planned := policy.plan call now
      (liveRequirement held alive now s call.request.dependencyId)
    (P.first call now s).1 = planned.1 ∧ valid (P.first call now s).2 ∧
      Applied held alive now call.request.dependencyId s planned.2 (P.first call now s).2
  cleanUp : ∀ {s} (dependencyId readAt now), valid s →
    let next := P.second (.cleanUp dependencyId) readAt now s
    next.1 = .found (.ok none) ∧ valid next.2 ∧
      Applied held alive now dependencyId s .drop next.2
  /-- A removal is decided by what it finds, unless what was read in memory has
  expired and is still there. -/
  remove : ∀ dependencyId read readAt now, ∃ decides : Option StoredRequirement → Bool,
    decides none = false ∧ ∀ s, valid s →
      let next := P.second (.remove dependencyId read) readAt now s
      ∃ removed : Bool, next.1 = .deletedForTenant (.ok removed) ∧ valid next.2 ∧
        Applied held alive now dependencyId s (if removed then .drop else .keep) next.2 ∧
        (removed = decides (liveRequirement held alive now s dependencyId) ∨
          (P.prompt ∧ removed = true ∧
            ∃ stored, held s dependencyId = some stored ∧ stored.expired now))

variable {held alive} {now : Instant} {dependencyId : JsString} {before after : ρ}
  {found : Option StoredRequirement}

theorem SameAt.refl (s : ρ) (id : JsString) : SameAt held alive now s s id := fun _ _ => rfl

theorem SameAt.of_held (h : held after dependencyId = held before dependencyId) :
    SameAt held alive now before after dependencyId := by
  intro later _
  rw [liveRequirement, h, liveRequirement]

theorem Applied.refl (s : ρ) : Applied held alive now dependencyId s .keep s where
  own := ⟨Or.inl rfl, .refl s _⟩
  others _ _ := ⟨Or.inl rfl, .refl s _⟩

theorem Applied.of_keep {middle : ρ} {effect : CommandEffect}
    (hkeep : Applied held alive now dependencyId before .keep middle)
    (h : Applied held alive now dependencyId middle effect after) :
    Applied held alive now dependencyId before effect after := by
  have hdrops : ∀ {id}, DropsAt held before middle id → DropsAt held middle after id →
      DropsAt held before after id := by
    rintro id hfirst (hsecond | hsecond)
    · exact hfirst.imp hsecond.trans hsecond.trans
    · exact Or.inr hsecond
  have hsame : ∀ {id}, SameAt held alive now before middle id →
      SameAt held alive now middle after id → SameAt held alive now before after id :=
    fun hfirst hsecond later hle => (hsecond later hle).trans (hfirst later hle)
  constructor
  · cases effect with
    | keep => exact ⟨hdrops hkeep.own.1 h.own.1, hsame hkeep.own.2 h.own.2⟩
    | drop => exact h.own
    | store stored => exact h.own
  · intro id hid
    exact ⟨hdrops (hkeep.others id hid).1 (h.others id hid).1,
      hsame (hkeep.others id hid).2 (h.others id hid).2⟩

theorem live_none_later
    (halive : ∀ {now later stored}, now ≤ later → alive later stored → alive now stored)
    {later : Instant} (hle : now ≤ later)
    (h : liveRequirement held alive now before dependencyId = none) :
    liveRequirement held alive later before dependencyId = none := by
  unfold liveRequirement at h ⊢
  rw [Option.filter_eq_none_iff] at h ⊢
  exact fun stored hstored hlater => h stored hstored (halive hle hlater)

theorem Applied.live_none {effect : CommandEffect} {later : Instant}
    (h : Applied held alive now dependencyId before effect after) (hle : now ≤ later)
    (hstores : ∀ stored, effect ≠ .store stored)
    (hnone : liveRequirement held alive later before dependencyId = none) :
    liveRequirement held alive later after dependencyId = none := by
  cases effect with
  | keep => rw [h.own.2 later hle, hnone]
  | drop =>
      rw [liveRequirement, show held after dependencyId = none from h.own]
      rfl
  | store stored => exact absurd rfl (hstores stored)

theorem applied_of_held {effect : CommandEffect}
    (hown : effect.Leaves held alive now dependencyId before after)
    (hothers : ∀ id, id ≠ dependencyId → held after id = held before id) :
    Applied held alive now dependencyId before effect after where
  own := hown
  others id hid := ⟨Or.inl (hothers id hid), .of_held (hothers id hid)⟩

end Laws

/-! ## Cells -/

theorem StoredRequirement.cell_expiresAt {stored : StoredRequirement} {e : Instant}
    (h : stored.requirement.expiresAt = some e) :
    stored.requirement.expiresAt = some stored.cell.expiresAt := by
  simp [StoredRequirement.cell, h]

section Cells

def heldIn (place : JsString → JsString) (cells : Cells JsString StoredRequirement)
    (dependencyId : JsString) : Option StoredRequirement :=
  (cells (place dependencyId)).map Cell.value

variable {place : JsString → JsString} {cells : Cells JsString StoredRequirement}
  {alive : Instant → StoredRequirement → Bool} {now : Instant} {dependencyId : JsString}

theorem PlacedRequirements.cell (h : PlacedRequirements place cells) (dependencyId : JsString) :
    cells (place dependencyId) = (heldIn place cells dependencyId).map StoredRequirement.cell := by
  unfold heldIn
  cases hcell : cells (place dependencyId) with
  | none => rfl
  | some cell =>
      obtain ⟨value, e⟩ := cell
      have hexpires : value.requirement.expiresAt = some e := (h dependencyId _ hcell).2
      simp only [Option.map_some, StoredRequirement.cell, hexpires, Option.getD_some]

theorem PlacedRequirements.named (h : PlacedRequirements place cells)
    {stored : StoredRequirement} (hheld : heldIn place cells dependencyId = some stored) :
    stored.dependencyId = dependencyId ∧ ∃ e, stored.requirement.expiresAt = some e := by
  obtain ⟨cell, hcell, rfl⟩ := Option.map_eq_some_iff.mp hheld
  exact ⟨(h dependencyId cell hcell).1, _, (h dependencyId cell hcell).2⟩

theorem applied_eraseCell (hplace : Function.Injective place) :
    Applied (heldIn place) alive now dependencyId cells .drop
      (cells.erase (place dependencyId)) := by
  apply applied_of_held
  · simp [CommandEffect.Leaves, heldIn, Cells.erase]
  · intro id hid
    simp [heldIn, Cells.erase, Function.update_of_ne (hplace.ne hid)]

theorem applied_putCell (hplace : Function.Injective place) (stored : StoredRequirement)
    (e : Instant) :
    Applied (heldIn place) alive now dependencyId cells (.store stored)
      (cells.put (place dependencyId) ⟨stored, e⟩) := by
  apply applied_of_held
  · simp [CommandEffect.Leaves, heldIn, Cells.put]
  · intro id hid
    simp [heldIn, Cells.put, Function.update_of_ne (hplace.ne hid)]

end Cells

/-! ## PostgreSQL -/

section Postgres

def PostgresX424Store.policy : CommandPolicy where
  accepts stored _ _ found :=
    if !stored.tenantId.all isTenantId then .error invalidTenantId
    else if stored.requirement.expiresAt.isNone then .error invalidTimestamptz
    else if found.isSome then .error ⟨js "Dependency ID already exists"⟩
    else .ok ()
  refuses _ := none
  stale calledAt stored := dateStringMs stored.cell.expiresAt ≤ calledAt
  removesAtOnce := true

private theorem live_always {rows : Cells JsString StoredRequirement} {now : Instant}
    {dependencyId : JsString} :
    liveRequirement (heldIn fun id => id) (fun _ _ => true) now rows dependencyId =
      heldIn (fun id => id) rows dependencyId := by
  unfold liveRequirement
  cases heldIn (fun id => id) rows dependencyId <;> rfl

theorem PostgresX424Store.readFirst_eq (dependencyId : JsString)
    (found : Option StoredRequirement) (calledAt : Instant)
    (rows : Cells JsString StoredRequirement) :
    readFirst dependencyId (found.map StoredRequirement.cell) calledAt rows =
      ((policy.planRead dependencyId calledAt found).1, rows) := by
  cases found with
  | none => rfl
  | some stored =>
      simp only [Option.map_some, readFirst, CommandPolicy.planRead, policy, decide_eq_true_eq]
      split_ifs <;> rfl

theorem PostgresX424Store.putRequirement_eq {rows : Cells JsString StoredRequirement}
    {requirement : HumanRequirement} {tenantId : Option JsString} {calledAt now : Instant}
    {found : Option StoredRequirement}
    (hrow : rows requirement.dependencyId = found.map StoredRequirement.cell) :
    putRequirement requirement tenantId now rows =
      match policy.accepts ⟨requirement, tenantId⟩ calledAt now found with
      | .ok () => (.ok (), rows.put requirement.dependencyId
          (StoredRequirement.cell ⟨requirement, tenantId⟩))
      | .error error => (.error error, rows) := by
  unfold putRequirement policy insertOnConflictDoNothing
  rw [hrow, Option.isSome_map]
  cases htenant : tenantId.all isTenantId with
  | false => simp [htenant]
  | true =>
      cases hexpires : requirement.expiresAt with
      | none => simp [htenant, hexpires]
      | some e => cases found <;> simp [htenant, hexpires, StoredRequirement.cell]

theorem PostgresX424Store.accepts_expires {stored : StoredRequirement} {calledAt now : Instant}
    {found : Option StoredRequirement} {answer : Unit}
    (h : policy.accepts stored calledAt now found = .ok answer) :
    ∃ e, stored.requirement.expiresAt = some e := by
  simp only [policy] at h
  split_ifs at h with htenant hexpires
  exact Option.ne_none_iff_exists'.mp (by simpa using hexpires)

private theorem filter_cell (found : Option StoredRequirement) (keep : StoredRequirement → Bool) :
    (found.map StoredRequirement.cell).filter (fun row => keep row.value) =
      (found.filter keep).map StoredRequirement.cell := by
  cases found with
  | none => rfl
  | some stored =>
      simp only [Option.map_some, Option.filter_some, StoredRequirement.cell]
      split_ifs <;> rfl

theorem postgres_commandLaws :
    CommandLaws (heldIn fun id => id) (fun _ _ => true) PostgresX424Store.protocol
      PostgresX424Store.policy (PlacedRequirements fun id => id) where
  valid_empty := fun _ _ h => (nomatch h)
  held_empty _ := rfl
  named h hheld := (h.named hheld).1
  alive_later _ h := h
  alive_of_prompt h := nomatch h
  unexpired := by
    intro rows id stored calledAt now h hheld _ _ hstale
    obtain ⟨_, e, hexpires⟩ := h.named hheld
    have hlate : ¬ dateStringMs e ≤ calledAt := by
      simpa [PostgresX424Store.policy, StoredRequirement.cell, hexpires] using hstale
    rw [StoredRequirement.expired_eq hexpires]
    exact decide_eq_false fun hle => hlate (Int.le_trans (dateStringMs_le e) hle)
  hasRoom_mono _ h := h
  first := by
    intro rows call now h _ _
    obtain ⟨request, calledAt⟩ := call
    simp only [live_always]
    have hrow := h.cell request.dependencyId
    cases request with
    | putFor requirement tenantId =>
        have hput := @PostgresX424Store.putRequirement_eq _ _ tenantId calledAt now _ hrow
        simp only [PostgresX424Store.protocol, PostgresX424Store.first, CommandPolicy.plan,
          RequirementRequest.dependencyId, hput]
        cases haccepts : PostgresX424Store.policy.accepts ⟨requirement, tenantId⟩ calledAt now
            (heldIn (fun id => id) rows requirement.dependencyId) with
        | error error => exact ⟨rfl, h, .refl rows⟩
        | ok _ =>
            obtain ⟨e, he⟩ := PostgresX424Store.accepts_expires haccepts
            refine ⟨rfl, ?_, applied_putCell Function.injective_id _ _⟩
            exact h.put Function.injective_id (StoredRequirement.cell_expiresAt he)
    | get dependencyId =>
        have hread := PostgresX424Store.readFirst_eq dependencyId
          (heldIn (fun id => id) rows dependencyId) calledAt rows
        simp only [RequirementRequest.dependencyId] at hrow
        rw [← hrow] at hread
        simp only [PostgresX424Store.protocol, PostgresX424Store.first, CommandPolicy.plan,
          RequirementRequest.dependencyId, hread, CommandPolicy.planRead_keeps]
        exact ⟨trivial, h, .refl rows⟩
    | getForTenant dependencyId tenantId =>
        simp only [PostgresX424Store.protocol, PostgresX424Store.first, CommandPolicy.plan,
          RequirementRequest.dependencyId] at hrow ⊢
        split_ifs
        · exact ⟨rfl, h, .refl rows⟩
        · rw [hrow, filter_cell _ fun stored => stored.tenantId = some tenantId,
            PostgresX424Store.readFirst_eq, CommandPolicy.planRead_keeps]
          exact ⟨rfl, h, .refl rows⟩
    | delete dependencyId =>
        exact ⟨rfl, h.erase Function.injective_id, applied_eraseCell Function.injective_id⟩
    | deleteForTenant dependencyId tenantId =>
        simp only [PostgresX424Store.protocol, PostgresX424Store.first,
          PostgresX424Store.deleteRequirementForTenant, CommandPolicy.plan,
          RequirementRequest.dependencyId] at hrow ⊢
        split_ifs with htenant
        · exact ⟨rfl, h, .refl rows⟩
        · rw [hrow]
          cases hheld : heldIn (fun id => id) rows dependencyId with
          | none => exact ⟨rfl, h, .refl rows⟩
          | some stored =>
              obtain ⟨_, e, hexpires⟩ := h.named hheld
              have hcell : stored.cell.expiresAt = e := by simp [StoredRequirement.cell, hexpires]
              simp only [Option.map_some, hcell, Option.filter_some, CommandPolicy.planRemoval,
                PostgresX424Store.policy]
              by_cases howner : stored.tenantId = some tenantId
              · by_cases hcurrent : now < e
                · have hexpired : stored.expired now = false :=
                    (StoredRequirement.expired_eq hexpires).trans
                      (decide_eq_false (Int.not_le.mpr hcurrent))
                  simp only [StoredRequirement.cell, howner, hcurrent, and_self, if_true,
                    decide_true, hexpired, Bool.not_true, Bool.false_eq_true, if_false]
                  exact ⟨rfl, h.erase Function.injective_id,
                    applied_eraseCell Function.injective_id⟩
                · have hexpired : stored.expired now = true :=
                    (StoredRequirement.expired_eq hexpires).trans
                      (decide_eq_true (Int.not_lt.mp hcurrent))
                  simp only [hcurrent, and_false, if_false, howner, decide_true, if_true,
                    hexpired, Bool.not_true, Bool.false_eq_true]
                  exact ⟨rfl, h, .refl rows⟩
              · simp only [StoredRequirement.cell, howner, false_and, if_false, decide_false,
                  Bool.false_eq_true]
                exact ⟨rfl, h, .refl rows⟩
  cleanUp := by
    intro rows dependencyId readAt now h
    exact ⟨rfl, h.erase Function.injective_id, applied_eraseCell Function.injective_id⟩
  remove := by
    intro dependencyId read readAt now
    refine ⟨fun _ => false, rfl, fun rows h => ⟨false, rfl, h, .refl rows, Or.inl rfl⟩⟩

end Postgres

/-! ## Redis -/

section Redis

variable {keyPrefix dependencyId : JsString} {db : RedisTable StoredRequirement} {now : Instant}

def unexpired (now : Instant) (stored : StoredRequirement) : Bool := !stored.expired now

theorem unexpired_later {stored : StoredRequirement} {now later : Instant} (hle : now ≤ later)
    (h : unexpired later stored) : unexpired now stored := by
  unfold unexpired at h ⊢
  cases hexpired : stored.expired now with
  | false => rfl
  | true => simp [StoredRequirement.expired_later hle hexpired] at h

namespace RedisX424Store

def policy : CommandPolicy where
  accepts stored calledAt _ found :=
    if !stored.tenantId.all isTenantId then .error invalidTenantId
    else if stored.dependencyId.isEmpty then .error ⟨js "x424 store ID is required"⟩
    else if (futureExpiry stored.requirement.expiresAt calledAt).isNone then
      .error ⟨js "Invalid or expired entry"⟩
    else if found.isSome then .error ⟨js "Dependency ID already exists"⟩
    else .ok ()
  refuses dependencyId :=
    if dependencyId.isEmpty then some ⟨js "x424 store ID is required"⟩ else none
  stale calledAt stored := stored.expired calledAt
  removesAtOnce := false

theorem accepts_expires {stored : StoredRequirement} {calledAt now : Instant}
    {found : Option StoredRequirement} {answer : Unit}
    (h : policy.accepts stored calledAt now found = .ok answer) :
    ∃ e, stored.requirement.expiresAt = some e := by
  simp only [policy] at h
  split_ifs at h with htenant hempty hexpires
  obtain ⟨e, he⟩ := Option.ne_none_iff_exists'.mp (by simpa using hexpires)
  exact ⟨e, (Option.filter_eq_some_iff.mp he).1⟩

theorem get_eq_live (h : PlacedRequirements (requirementKey keyPrefix) db) :
    db.get now (requirementKey keyPrefix dependencyId) =
      liveRequirement (heldIn (requirementKey keyPrefix)) unexpired now db dependencyId := by
  unfold RedisTable.get Cells.live liveRequirement heldIn
  cases hcell : db (requirementKey keyPrefix dependencyId) with
  | none => rfl
  | some cell =>
      have hexpires := (h dependencyId cell hcell).2
      simp only [Option.map_some, Option.filter_some, unexpired,
        StoredRequirement.expired_eq hexpires, ← decide_not, Int.not_le]
      split_ifs <;> rfl

theorem setRequirement_eq {requirement : HumanRequirement} {tenantId : Option JsString}
    {calledAt : Instant} (h : PlacedRequirements (requirementKey keyPrefix) db) :
    setRequirement keyPrefix requirement tenantId calledAt now db =
      match policy.accepts ⟨requirement, tenantId⟩ calledAt now
          (liveRequirement (heldIn (requirementKey keyPrefix)) unexpired now db
            requirement.dependencyId) with
      | .ok () => (.ok (), db.put (requirementKey keyPrefix requirement.dependencyId)
          (StoredRequirement.cell ⟨requirement, tenantId⟩))
      | .error error => (.error error, db) := by
  rw [← get_eq_live h, RedisTable.get]
  unfold setRequirement policy RedisTable.setNx
  simp only [Option.isSome_map, StoredRequirement.dependencyId]
  cases htenant : tenantId.all isTenantId with
  | false => simp
  | true =>
      cases hempty : List.isEmpty requirement.dependencyId with
      | true => simp
      | false =>
          cases hfuture : futureExpiry requirement.expiresAt calledAt with
          | none => simp
          | some e =>
              have hexpires : requirement.expiresAt = some e :=
                (Option.filter_eq_some_iff.mp hfuture).1
              cases (db.live now (requirementKey keyPrefix requirement.dependencyId)).isSome <;>
                simp [StoredRequirement.cell, hexpires]

theorem readFirst_eq {shows : StoredRequirement → Bool} {calledAt : Instant}
    (h : PlacedRequirements (requirementKey keyPrefix) db) (hle : calledAt ≤ now) :
    readFirst keyPrefix dependencyId shows calledAt now db =
      ((policy.planRead dependencyId calledAt
        ((liveRequirement (heldIn (requirementKey keyPrefix)) unexpired now db
          dependencyId).filter shows)).1, db) := by
  rw [← get_eq_live h]
  simp only [readFirst, CommandPolicy.planRead, policy]
  cases dependencyId.isEmpty with
  | true => rfl
  | false =>
      cases hget : db.get now (requirementKey keyPrefix dependencyId) with
      | none => rfl
      | some stored =>
          -- A live value has not expired at an earlier time.
          have hlive : unexpired now stored := by
            rw [get_eq_live h] at hget
            exact (Option.filter_eq_some_iff.mp hget).2
          have hexpired : stored.expired calledAt = false := by
            simpa [unexpired] using unexpired_later hle hlive
          cases hshows : shows stored <;>
            simp only [Bool.false_eq_true, if_false, if_true, hexpired, Option.filter_some, hshows]

end RedisX424Store

open RedisX424Store in
theorem redis_commandLaws (keyPrefix : JsString) :
    CommandLaws (heldIn (requirementKey keyPrefix)) unexpired (protocol keyPrefix) policy
      (PlacedRequirements (requirementKey keyPrefix)) where
  valid_empty := fun _ _ h => (nomatch h)
  held_empty _ := rfl
  named h hheld := (h.named hheld).1
  alive_later := unexpired_later
  alive_of_prompt h := nomatch h
  unexpired _ _ hle hlive _ := by
    simpa [unexpired] using unexpired_later hle hlive
  hasRoom_mono _ h := h
  first := by
    intro db call now h htimely _
    obtain ⟨request, calledAt⟩ := call
    have hplace := redisKey_injective keyPrefix (js "requirement")
    cases request with
    | putFor requirement tenantId =>
        have hput := @setRequirement_eq _ _ now requirement tenantId calledAt h
        simp only [protocol, first, CommandPolicy.plan, RequirementRequest.dependencyId, hput]
        cases haccepts : policy.accepts ⟨requirement, tenantId⟩ calledAt now
            (liveRequirement (heldIn (requirementKey keyPrefix)) unexpired now db
              requirement.dependencyId) with
        | error error => exact ⟨rfl, h, .refl db⟩
        | ok _ =>
            obtain ⟨e, he⟩ := accepts_expires haccepts
            refine ⟨rfl, ?_, applied_putCell hplace _ _⟩
            exact h.put hplace (StoredRequirement.cell_expiresAt he)
    | get dependencyId =>
        have hread := @readFirst_eq _ dependencyId _ _ (fun _ => true) _ h htimely.1
        rw [filter_all] at hread
        simp only [protocol, first, CommandPolicy.plan, RequirementRequest.dependencyId, hread,
          CommandPolicy.planRead_keeps]
        exact ⟨trivial, h, .refl db⟩
    | getForTenant dependencyId tenantId =>
        simp only [protocol, first, CommandPolicy.plan, RequirementRequest.dependencyId]
        split_ifs
        · exact ⟨rfl, h, .refl db⟩
        · rw [readFirst_eq h htimely.1, CommandPolicy.planRead_keeps]
          exact ⟨rfl, h, .refl db⟩
    | delete dependencyId =>
        simp only [protocol, first, deleteRequirement, CommandPolicy.plan, policy,
          RequirementRequest.dependencyId]
        split_ifs
        · exact ⟨rfl, h, .refl db⟩
        · exact ⟨rfl, h.erase hplace, applied_eraseCell hplace⟩
    | deleteForTenant dependencyId tenantId =>
        simp only [protocol, first, CommandPolicy.plan, RequirementRequest.dependencyId,
          get_eq_live h]
        cases isTenantId tenantId with
        | false => exact ⟨rfl, h, .refl db⟩
        | true =>
            simp only [Bool.not_true, Bool.false_eq_true, if_false, CommandPolicy.planRemoval,
              policy]
            cases dependencyId.isEmpty with
            | true => exact ⟨rfl, h, .refl db⟩
            | false =>
                cases liveRequirement (heldIn (requirementKey keyPrefix)) unexpired now db
                  dependencyId with
                | none => exact ⟨rfl, h, .refl db⟩
                | some stored =>
                    by_cases howner : stored.tenantId = some tenantId <;>
                      simp only [howner, if_true, if_false, Option.filter_some, decide_true,
                        decide_false, Bool.false_eq_true, Bool.not_false] <;>
                      exact ⟨trivial, h, .refl db⟩
  cleanUp := by
    intro db dependencyId readAt now h
    have hplace := redisKey_injective keyPrefix (js "requirement")
    exact ⟨rfl, h.erase hplace, applied_eraseCell hplace⟩
  remove := by
    intro dependencyId read readAt now
    have hplace := redisKey_injective keyPrefix (js "requirement")
    refine ⟨fun found => !read.expired readAt && found = some read, by simp, fun db h => ?_⟩
    simp only [protocol, second, get_eq_live h]
    cases hexpired : read.expired readAt with
    | true => exact ⟨false, rfl, h, .refl db, Or.inl (by simp)⟩
    | false =>
        by_cases hsame : liveRequirement (heldIn (requirementKey keyPrefix)) unexpired now db
            dependencyId = some read
        · simp only [Bool.false_eq_true, if_false, hsame, if_true]
          exact ⟨true, rfl, h.erase hplace, applied_eraseCell hplace, Or.inl (by simp)⟩
        · simp only [Bool.false_eq_true, if_false, hsame]
          exact ⟨false, rfl, h, .refl db, Or.inl (by simp)⟩

end Redis

/-! ## In memory -/

section InMemory

variable {maximumEntries : Nat} {entries : RequirementEntries} {dependencyId : JsString}
  {now : Instant}

namespace InMemoryRequirementStore

def policy : CommandPolicy where
  accepts stored _ now found :=
    if !stored.tenantId.all isTenantId then .error invalidTenantId
    else if found.isSome then .error ⟨js "Dependency ID already exists"⟩
    else if stored.expired now then .error ⟨js "Cannot store an expired human requirement"⟩
    else .ok ()
  refuses _ := none
  stale _ _ := false
  removesAtOnce := false

def held (entries : RequirementEntries) : JsString → Option StoredRequirement := entries.find

theorem applied_prune :
    Applied held unexpired now dependencyId entries .keep (prune now entries) := by
  have hdrops : ∀ id, DropsAt held entries (prune now entries) id := by
    intro id
    simp only [DropsAt, held, prune, Table.find_filter]
    cases entries.find id with
    | none => exact Or.inl rfl
    | some stored => cases hexpired : stored.expired now <;> simp [hexpired, Option.filter_some]
  have hsame : ∀ id, SameAt held unexpired now entries (prune now entries) id := by
    intro id later hle
    simp only [liveRequirement, held, prune, Table.find_filter]
    cases entries.find id with
    | none => rfl
    | some stored =>
        cases hexpired : stored.expired now with
        | false => simp [hexpired, Option.filter_some]
        | true =>
            have hlater := StoredRequirement.expired_later hle hexpired
            simp [hexpired, hlater, unexpired, Option.filter_some]
  exact ⟨⟨hdrops _, hsame _⟩, fun id _ => ⟨hdrops id, hsame id⟩⟩

theorem applied_erase :
    Applied held unexpired now dependencyId entries .drop (entries.erase dependencyId) :=
  applied_of_held (Table.find_erase_same entries dependencyId) fun _ hid =>
    Table.find_erase_of_ne entries hid

/-- `#getEntry` drops what it finds expired, and shows the rest. -/
theorem getEntry_eq : (getEntry dependencyId now entries).1 =
      liveRequirement held unexpired now entries dependencyId ∧
    Applied held unexpired now dependencyId entries .keep
      (getEntry dependencyId now entries).2 := by
  unfold getEntry liveRequirement held
  cases hfound : entries.find dependencyId with
  | none => exact ⟨rfl, .refl entries⟩
  | some stored =>
      cases hexpired : stored.expired now with
      | false => exact ⟨by simp [hexpired, unexpired, Option.filter_some], by
          simpa [hexpired] using Applied.refl entries⟩
      | true =>
          simp only [hexpired, if_true, Option.filter_some, unexpired, Bool.not_true,
            Bool.false_eq_true, if_false, true_and]
          refine ⟨⟨Or.inr (Table.find_erase_same entries dependencyId), fun later hle => ?_⟩,
            applied_erase.others⟩
          have hlater := StoredRequirement.expired_later hle hexpired
          simp [liveRequirement, hfound, hlater, X424.unexpired, Option.filter_some]

end InMemoryRequirementStore

open InMemoryRequirementStore in
theorem inMemory_commandLaws (maximumEntries : Nat) :
    CommandLaws held unexpired (protocol maximumEntries) policy fun _ => True where
  valid_empty := trivial
  held_empty _ := rfl
  named _ hheld := (Table.find_eq_some.mp hheld).2
  alive_later := unexpired_later
  alive_of_prompt _ := rfl
  unexpired _ _ hle hlive _ := by
    simpa [X424.unexpired] using unexpired_later hle hlive
  hasRoom_mono := by
    intro now s t h hroom
    have hle : (prune now t).size ≤ (prune now s).size := by
      apply Table.size_le_of_find
      intro id
      rw [prune, prune, Table.find_filter, Table.find_filter]
      exact h id
    have hlt := of_decide_eq_true hroom
    exact decide_eq_true (Nat.lt_of_le_of_lt hle hlt)
  first := by
    intro entries call now _ htimely hroom
    obtain ⟨request, calledAt⟩ := call
    obtain rfl : calledAt = now := htimely.2 rfl
    simp only [true_and]
    cases request with
    | putFor requirement tenantId =>
        have hlive : (prune calledAt entries).find requirement.dependencyId =
            liveRequirement held unexpired calledAt entries requirement.dependencyId :=
          Table.find_filter _ _ _
        have hfull : ¬ maximumEntries ≤ (prune calledAt entries).size :=
          Nat.not_le.mpr (of_decide_eq_true (hroom requirement tenantId rfl))
        simp only [protocol, InMemoryRequirementStore.first, putFor, CommandPolicy.plan, policy,
          RequirementRequest.dependencyId, hlive, hfull, if_false]
        cases tenantId.all isTenantId with
        | false => exact ⟨rfl, .refl entries⟩
        | true =>
            cases (liveRequirement held unexpired calledAt entries
                requirement.dependencyId).isSome with
            | true => exact ⟨rfl, applied_prune⟩
            | false =>
                cases StoredRequirement.expired ⟨requirement, tenantId⟩ calledAt with
                | true => exact ⟨rfl, applied_prune⟩
                | false =>
                    refine ⟨rfl, applied_prune.of_keep (applied_of_held ?_ fun id hid => ?_)⟩
                    · exact Table.find_put_same _ (⟨requirement, tenantId⟩ : StoredRequirement)
                    · exact Table.find_put_of_ne _ hid
    | get dependencyId =>
        obtain ⟨hreply, happlied⟩ := @getEntry_eq entries dependencyId calledAt
        simp only [protocol, InMemoryRequirementStore.first, InMemoryRequirementStore.get,
          CommandPolicy.plan,
          RequirementRequest.dependencyId, CommandPolicy.planRead_keeps, hreply]
        refine ⟨?_, happlied⟩
        cases liveRequirement held unexpired calledAt entries dependencyId <;> rfl
    | getForTenant dependencyId tenantId =>
        obtain ⟨hreply, happlied⟩ := @getEntry_eq entries dependencyId calledAt
        simp only [protocol, InMemoryRequirementStore.first, getForTenant, CommandPolicy.plan,
          RequirementRequest.dependencyId]
        cases isTenantId tenantId with
        | false => exact ⟨rfl, .refl entries⟩
        | true =>
            simp only [Bool.not_true, Bool.false_eq_true, if_false,
              CommandPolicy.planRead_keeps, hreply]
            refine ⟨?_, happlied⟩
            cases (liveRequirement held unexpired calledAt entries dependencyId).filter
              fun stored => stored.tenantId = some tenantId <;> rfl
    | delete dependencyId => exact ⟨rfl, applied_erase⟩
    | deleteForTenant dependencyId tenantId =>
        obtain ⟨hreply, happlied⟩ := @getEntry_eq entries dependencyId calledAt
        simp only [protocol, InMemoryRequirementStore.first, CommandPolicy.plan,
          RequirementRequest.dependencyId]
        cases isTenantId tenantId with
        | false => exact ⟨rfl, .refl entries⟩
        | true =>
            rw [← hreply]
            rcases hentry : getEntry dependencyId calledAt entries with ⟨_ | stored, next⟩
            · rw [hentry] at happlied
              exact ⟨rfl, happlied⟩
            · rw [hentry] at happlied
              by_cases howner : stored.tenantId = some tenantId <;>
                simp only [Bool.not_true, Bool.false_eq_true, if_false, howner, if_true,
                  Option.filter_some, decide_true, decide_false, CommandPolicy.planRemoval,
                  policy, Bool.not_false] <;>
                exact ⟨trivial, happlied⟩
  cleanUp dependencyId _ _ _ := ⟨rfl, trivial, applied_erase⟩
  remove := by
    intro dependencyId read readAt now
    refine ⟨Option.isSome, rfl, fun entries _ => ?_⟩
    refine ⟨(entries.find dependencyId).isSome, rfl, trivial, ?_, ?_⟩
    · cases hfound : entries.find dependencyId with
      | none =>
          refine ⟨⟨Or.inr (Table.find_erase_same entries dependencyId), fun later _ => ?_⟩,
            applied_erase.others⟩
          simp [liveRequirement, held, protocol, second, hfound]
      | some stored => exact applied_erase
    · cases hfound : entries.find dependencyId with
      | none => exact Or.inl (by simp [liveRequirement, held, hfound])
      | some stored =>
          cases hexpired : stored.expired now with
          | false =>
              refine Or.inl ?_
              simp [liveRequirement, held, hfound, X424.unexpired, hexpired, Option.filter_some]
          | true => exact Or.inr ⟨rfl, rfl, stored, hfound, hexpired⟩

end InMemory

end X424
