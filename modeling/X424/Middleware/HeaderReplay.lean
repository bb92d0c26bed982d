import X424.Middleware.FetchHeaders

/-!
# What the guard changes besides

The guard replays the headers of `writeHead` through `setHeader`.  Next to a
response without the guard the same calls send the same status and the same
values under every other name, as long as `writeHead` passes its headers where
the guard looks for them, repeats no name and gives Node nothing to refuse.
-/

namespace X424

open Foundation Foundation.Effect

def IsProtected (key : JsString) : Prop := key = js "cache-control" ∨ key = js "vary"

/-- The heads agree on everything but the two headers that the guard owns. -/
structure SameHead (guarded bare : ResponseHead) : Prop where
  statusCode : guarded.statusCode = bare.statusCode
  statusMessage : guarded.statusMessage = bare.statusMessage
  headers : ∀ name, ¬ IsProtected name → guarded.headers name = bare.headers name

def ServerResponse.table (response : ServerResponse) : JsString → Option StoredValue :=
  response.outHeaders.getD fun _ => none

section Table

variable {response : ServerResponse} {name : JsString} {stored : StoredValue}

theorem ServerResponse.stored_eq (name : JsString) :
    response.stored name = response.table (toLowerCase name) := by
  rw [ServerResponse.stored, ServerResponse.table]
  cases response.outHeaders <;> rfl

theorem ServerResponse.table_put :
    (response.put name stored).table =
      Function.update response.table (toLowerCase name) (some stored) := rfl

theorem ServerResponse.table_erase :
    (response.erase name).table = Function.update response.table (toLowerCase name) none := by
  rw [ServerResponse.table, ServerResponse.erase, ServerResponse.table]
  cases response.outHeaders with
  | none => exact (Function.update_eq_self _ _).symm
  | some headers => rfl

end Table

/-! ## Headers that the guard owns -/

structure OnlyProtected (before next : ServerResponse) : Prop where
  guarded : next.protectedHeadersInstalled = before.protectedHeadersInstalled
  sent : next.sent = before.sent
  outHeaders : before.outHeaders.isSome = true → next.outHeaders.isSome = true
  table : ∀ key, ¬ IsProtected key → next.table key = before.table key

section Frame

variable {response next last : ServerResponse} {name : JsString} {value : Option HeaderValue}

theorem OnlyProtected.refl (response : ServerResponse) : OnlyProtected response response :=
  ⟨rfl, rfl, id, fun _ _ => rfl⟩

theorem OnlyProtected.trans (h : OnlyProtected response next) (hnext : OnlyProtected next last) :
    OnlyProtected response last where
  guarded := hnext.guarded.trans h.guarded
  sent := hnext.sent.trans h.sent
  outHeaders hsome := hnext.outHeaders (h.outHeaders hsome)
  table key hkey := (hnext.table key hkey).trans (h.table key hkey)

variable (hname : IsProtected (toLowerCase name))

include hname

theorem OnlyProtected.put (stored : StoredValue) :
    OnlyProtected response (response.put name stored) where
  guarded := rfl
  sent := rfl
  outHeaders _ := rfl
  table key hkey := by
    rw [ServerResponse.table_put, Function.update_of_ne]
    rintro rfl
    exact hkey hname

theorem OnlyProtected.erase : OnlyProtected response (response.erase name) where
  guarded := rfl
  sent := rfl
  outHeaders := by
    rw [ServerResponse.erase, Option.isSome_map]
    exact id
  table key hkey := by
    rw [ServerResponse.table_erase, Function.update_of_ne]
    rintro rfl
    exact hkey hname

theorem OnlyProtected.nodeSetHeader :
    OnlyProtected response ((nodeSetHeader name value).after response) := by
  rcases nodeSetHeader_cases name value response with ⟨stored, _, _, _, _, hafter⟩ | ⟨_, hafter⟩
  · rw [hafter]
    exact .put hname stored
  · rw [hafter]
    exact .refl response

theorem OnlyProtected.nodeRemoveHeader :
    OnlyProtected response ((nodeRemoveHeader name).after response) := by
  rw [X424.nodeRemoveHeader, after_get_bind]
  split_ifs
  · exact .refl response
  · exact .erase hname

end Frame

theorem OnlyProtected.bind {x : Respond} {f : Unit → Respond} {response : ServerResponse}
    (hx : ∀ response, OnlyProtected response (x.after response))
    (hf : ∀ response, OnlyProtected response ((f ()).after response)) :
    OnlyProtected response ((x >>= f).after response) := by
  cases h : x.result response with
  | ok a =>
      rw [after_bind_ok h]
      exact (hx response).trans (hf _)
  | error e =>
      rw [after_bind_error h]
      exact hx response

theorem forceProtectedHeaders_onlyProtected (response : ServerResponse) :
    OnlyProtected response (forceProtectedHeaders.after response) :=
  .bind (fun _ => .nodeSetHeader (Or.inl (by decide))) fun response => by
    rw [after_get_bind]
    exact .nodeSetHeader (Or.inr (by decide))

section Frame

variable {response : ServerResponse} {name : JsString} (hname : IsProtected (toLowerCase name))

include hname

theorem setHeader_onlyProtected (value : Option HeaderValue) :
    OnlyProtected response ((setHeader name value).after response) := by
  rw [setHeader, after_get_bind]
  split_ifs
  · rw [guardedSetHeader]
    split_ifs
    · exact .nodeSetHeader hname
    · rw [after_get_bind]
      exact .nodeSetHeader hname
    · exact .nodeSetHeader hname
  · exact .nodeSetHeader hname

theorem removeHeader_onlyProtected :
    OnlyProtected response ((removeHeader name).after response) := by
  rw [removeHeader, after_get_bind]
  split_ifs
  · rw [guardedRemoveHeader, if_pos (show _ ∨ _ from hname)]
    exact forceProtectedHeaders_onlyProtected response
  · exact .nodeRemoveHeader hname

theorem appendHeader_onlyProtected (value : Option HeaderValue) :
    OnlyProtected response ((appendHeader name value).after response) := by
  rw [appendHeader, after_get_bind]
  split_ifs
  · exact .refl response
  · cases validateHeader name value with
    | error error => exact .refl response
    | ok added =>
        cases hstored : response.stored name with
        | none => exact setHeader_onlyProtected hname _
        | some stored => exact .put hname _

end Frame

/-! ## The response without the guard -/

/--
The guarded response stands next to the bare one: until the head is sent they
agree off the guard's headers, except that the bare one has already lost the
pending ones.
-/
structure Behind (pending : List JsString) (guarded bare : ServerResponse) : Prop where
  installed : guarded.protectedHeadersInstalled = true
  absent : bare.protectedHeadersInstalled = false
  sent : Option.Rel SameHead guarded.sent bare.sent
  outHeaders : guarded.outHeaders.isSome = true
  table : bare.sent = none → ∀ key, ¬ IsProtected key → key ∉ pending →
    guarded.table key = bare.table key
  cleared : ∀ key ∈ pending, ¬ IsProtected key → bare.table key = none

namespace Behind

variable {pending rest : List JsString} {guarded bare next : ServerResponse} {name : JsString}

theorem left (h : Behind pending guarded bare) (hnext : OnlyProtected guarded next) :
    Behind pending next bare where
  installed := hnext.guarded.trans h.installed
  absent := h.absent
  sent := hnext.sent ▸ h.sent
  outHeaders := hnext.outHeaders h.outHeaders
  table hsent key hkey hpending := (hnext.table key hkey).trans (h.table hsent key hkey hpending)
  cleared := h.cleared

theorem right (h : Behind pending guarded bare) (hnext : OnlyProtected bare next) :
    Behind pending guarded next where
  installed := h.installed
  absent := hnext.guarded.trans h.absent
  sent := hnext.sent ▸ h.sent
  outHeaders := h.outHeaders
  table hsent key hkey hpending :=
    (h.table (hnext.sent.symm.trans hsent) key hkey hpending).trans (hnext.table key hkey).symm
  cleared key hkey hother := (hnext.table key hother).trans (h.cleared key hkey hother)

theorem put (h : Behind pending guarded bare) (stored : StoredValue)
    (hrest : ∀ key ∈ rest, key ∈ pending)
    (hname : ∀ key, ¬ IsProtected key → (key ∈ rest ↔ key ∈ pending ∧ key ≠ toLowerCase name)) :
    Behind rest (guarded.put name stored) (bare.put name stored) where
  installed := h.installed
  absent := h.absent
  sent := h.sent
  outHeaders := rfl
  table hsent key hkey hpending := by
    rw [ServerResponse.table_put, ServerResponse.table_put, Function.update_apply,
      Function.update_apply]
    split_ifs with heq
    · rfl
    · exact h.table hsent key hkey fun hmem => hpending ((hname key hkey).mpr ⟨hmem, heq⟩)
  cleared key hkey hother := by
    rw [ServerResponse.table_put, Function.update_of_ne ((hname key hother).mp hkey).2]
    exact h.cleared key (hrest key hkey) hother

theorem erase (h : Behind [] guarded bare) : Behind [] (guarded.erase name) (bare.erase name) where
  installed := h.installed
  absent := h.absent
  sent := h.sent
  outHeaders := by
    rw [ServerResponse.erase, Option.isSome_map]
    exact h.outHeaders
  table hsent key hkey hpending := by
    rw [ServerResponse.table_erase, ServerResponse.table_erase, Function.update_apply,
      Function.update_apply]
    split_ifs
    · rfl
    · exact h.table hsent key hkey hpending
  cleared key hkey := by cases hkey

theorem erase_right (h : Behind pending guarded bare) :
    Behind (toLowerCase name :: pending) guarded (bare.erase name) where
  installed := h.installed
  absent := h.absent
  sent := h.sent
  outHeaders := h.outHeaders
  table hsent key hkey hpending := by
    rw [List.mem_cons, not_or] at hpending
    rw [ServerResponse.table_erase, Function.update_of_ne hpending.1]
    exact h.table hsent key hkey hpending.2
  cleared key hkey hother := by
    rw [ServerResponse.table_erase, Function.update_apply]
    split_ifs with heq
    · rfl
    · exact h.cleared key ((List.mem_cons.mp hkey).resolve_left heq) hother

theorem unsent_iff (h : Behind pending guarded bare) :
    guarded.sent = none ↔ bare.sent = none := by
  have hrel : ∀ {sent other : Option ResponseHead}, Option.Rel SameHead sent other →
      (sent = none ↔ other = none) := by
    intro sent other hrel
    cases hrel <;> simp
  exact hrel h.sent

theorem sent_of_sent {head : ResponseHead} (h : Behind pending guarded bare)
    (hsent : bare.sent = some head) : ∃ other, guarded.sent = some other := by
  apply Option.ne_none_iff_exists'.mp
  rw [Ne, h.unsent_iff, hsent]
  simp

/-- A header that the guard does not own is set on both sides or on neither. -/
theorem nodeSetHeader (h : Behind [] guarded bare) (value : Option HeaderValue) :
    Behind [] ((nodeSetHeader name value).after guarded)
      ((nodeSetHeader name value).after bare) := by
  rcases nodeSetHeader_cases name value guarded with
    ⟨stored, hsent, htoken, hvalue, _, hafter⟩ | ⟨⟨error, herror⟩, hafter⟩
  · have hbare :=
      nodeSetHeader_ok (h.unsent_iff.mp hsent) (validateHeader_eq_ok.mpr ⟨htoken, hvalue⟩)
    rw [hafter, hbare.2]
    exact h.put stored (fun _ => id) fun key _ => by simp
  · rcases nodeSetHeader_cases name value bare with
      ⟨stored, hsent, htoken, hvalue, _, _⟩ | ⟨_, hbare⟩
    · have hok := nodeSetHeader_ok (h.unsent_iff.mpr hsent)
        (validateHeader_eq_ok.mpr ⟨htoken, hvalue⟩)
      rw [hok.1] at herror
      cases herror
    · rw [hafter, hbare]
      exact h

theorem setHeader (h : Behind [] guarded bare) (name : JsString) (value : Option HeaderValue) :
    Behind [] ((setHeader name value).after guarded) ((setHeader name value).after bare) := by
  by_cases hname : IsProtected (toLowerCase name)
  · exact (h.left (setHeader_onlyProtected hname value)).right (setHeader_onlyProtected hname value)
  · rw [IsProtected, not_or] at hname
    rw [X424.setHeader, after_get_bind, after_get_bind, h.installed, h.absent, if_pos rfl,
      if_neg (by decide), guardedSetHeader, if_neg hname.1, if_neg hname.2]
    exact h.nodeSetHeader value

theorem removeHeader (h : Behind [] guarded bare) (name : JsString) :
    Behind [] ((removeHeader name).after guarded) ((removeHeader name).after bare) := by
  by_cases hname : IsProtected (toLowerCase name)
  · exact (h.left (removeHeader_onlyProtected hname)).right (removeHeader_onlyProtected hname)
  · rw [X424.removeHeader, after_get_bind, after_get_bind, h.installed, h.absent, if_pos rfl,
      if_neg (by decide), guardedRemoveHeader, if_neg (show ¬ (_ ∨ _) from hname),
      nodeRemoveHeader, after_get_bind, after_get_bind]
    rcases Option.eq_none_or_eq_some bare.sent with hsent | ⟨head, hsent⟩
    · rw [h.unsent_iff.mpr hsent, hsent]
      exact h.erase
    · obtain ⟨other, hother⟩ := h.sent_of_sent hsent
      rw [hother, hsent]
      exact h

end Behind

/-! ## Status -/

def HasStatus (statusCode : ℤ) (statusMessage : Option JsString)
    (response : ServerResponse) : Prop :=
  response.statusCode = statusCode ∧ response.statusMessage = statusMessage

section Status

variable {statusCode : ℤ} {statusMessage : Option JsString}

theorem nodeSetHeader_status (name : JsString) (value : Option HeaderValue) :
    Keeps (HasStatus statusCode statusMessage) (nodeSetHeader name value) := by
  intro response h
  rcases nodeSetHeader_cases name value response with ⟨stored, _, _, _, _, hafter⟩ | ⟨_, hafter⟩
  · rw [hafter]
    exact h
  · rw [hafter]
    exact h

theorem forceProtectedHeaders_status :
    Keeps (HasStatus statusCode statusMessage) forceProtectedHeaders :=
  Keeps.bind (nodeSetHeader_status _ _) fun _ =>
    Keeps.get_bind fun response => nodeSetHeader_status _ _ response

theorem setHeader_status (name : JsString) (value : Option HeaderValue) :
    Keeps (HasStatus statusCode statusMessage) (setHeader name value) := by
  intro response h
  rw [setHeader, after_get_bind]
  split_ifs
  · rw [guardedSetHeader]
    split_ifs
    · exact nodeSetHeader_status _ _ response h
    · rw [after_get_bind]
      exact nodeSetHeader_status _ _ response h
    · exact nodeSetHeader_status _ _ response h
  · exact nodeSetHeader_status _ _ response h

theorem removeHeader_status (name : JsString) :
    Keeps (HasStatus statusCode statusMessage) (removeHeader name) := by
  have hnode : Keeps (HasStatus statusCode statusMessage) (nodeRemoveHeader name) := by
    intro response h
    rw [nodeRemoveHeader, after_get_bind]
    split_ifs
    · exact h
    · exact h
  intro response h
  rw [removeHeader, after_get_bind]
  split_ifs
  · rw [guardedRemoveHeader]
    split_ifs
    · exact forceProtectedHeaders_status response h
    · exact hnode response h
  · exact hnode response h

theorem appendHeader_status (name : JsString) (value : Option HeaderValue) :
    Keeps (HasStatus statusCode statusMessage) (appendHeader name value) := by
  intro response h
  rw [appendHeader, after_get_bind]
  split_ifs
  · exact h
  · cases validateHeader name value with
    | error error => exact h
    | ok added =>
        cases hstored : response.stored name with
        | none => exact setHeader_status name _ response h
        | some stored => exact h

end Status

/-! ## One header of `writeHead` -/

abbrev HeaderLine := { line : JsString × StoredValue // isToken line.1 = true }

namespace HeaderLine

def name (line : HeaderLine) : JsString := line.1.1

def stored (line : HeaderLine) : StoredValue := line.1.2

def entry (line : HeaderLine) : Option JsString × Option HeaderValue :=
  (some line.name, some line.stored.1)

def key (line : HeaderLine) : JsString := toLowerCase line.name

theorem validate (line : HeaderLine) :
    validateHeader line.name (some line.stored.1) = .ok line.stored :=
  validateHeader_eq_ok.mpr ⟨line.2, rfl⟩

end HeaderLine

section Line

variable {response : ServerResponse} (line : HeaderLine) (hsent : response.sent = none)

include hsent

theorem setHeader_line (hinstalled : response.protectedHeadersInstalled = true) :
    (setHeader line.name (some line.stored.1)).result response = .ok () ∧
      (¬ IsProtected line.key →
        (setHeader line.name (some line.stored.1)).after response =
          response.put line.name line.stored) := by
  rw [setHeader, result_get_bind, after_get_bind, if_pos hinstalled, guardedSetHeader]
  split_ifs with hcache hvary
  · refine ⟨(nodeSetHeader_ok hsent (validateHeader_eq_ok.mpr
      ⟨line.2, show _ = some protectedCacheControl.1 from rfl⟩)).1, fun hne => ?_⟩
    exact absurd (Or.inl hcache) hne
  · refine ⟨?_, fun hne => absurd (Or.inr hvary) hne⟩
    have hvalid : (HeaderValue.single (mergeVary (response.getHeader (js "vary"))
        [line.stored.1.text, humanProofHeader])).isValid = true := by
      rw [HeaderValue.isValid, HeaderValue.items, List.all_cons, List.all_nil, Bool.and_true]
      refine isNodeHeaderText_mergeVary _ fun value hvalue => ?_
      rcases List.mem_cons.mp hvalue with rfl | hvalue
      · exact isNodeHeaderText_text line.stored
      · rw [List.mem_singleton.mp hvalue]
        decide
    rw [result_get_bind]
    exact (nodeSetHeader_ok hsent (validateHeader_eq_ok.mpr ⟨line.2, show _ = some
      (⟨_, hvalid⟩ : StoredValue).1 from rfl⟩)).1
  · obtain ⟨hresult, hafter⟩ := nodeSetHeader_ok hsent line.validate
    exact ⟨hresult, fun _ => hafter⟩

theorem nodeSetHeader_line (hinstalled : response.protectedHeadersInstalled = false) :
    (setHeader line.name (some line.stored.1)).result response = .ok () ∧
      (setHeader line.name (some line.stored.1)).after response =
        response.put line.name line.stored := by
  rw [setHeader, result_get_bind, after_get_bind, if_neg (by rw [hinstalled]; decide)]
  exact nodeSetHeader_ok hsent line.validate

theorem appendHeader_line (hinstalled : response.protectedHeadersInstalled = false) :
    (appendHeader line.name (some line.stored.1)).result response = .ok () ∧
      (response.table line.key = none →
        (appendHeader line.name (some line.stored.1)).after response =
          response.put line.name line.stored) := by
  rw [appendHeader, result_get_bind, after_get_bind, hsent, if_neg (by decide), line.validate]
  cases hstored : response.stored line.name with
  | none =>
      obtain ⟨hresult, hafter⟩ := nodeSetHeader_line line hsent hinstalled
      exact ⟨hresult, fun _ => hafter⟩
  | some stored =>
      refine ⟨rfl, fun hnone => ?_⟩
      rw [ServerResponse.stored_eq] at hstored
      exact absurd (hnone.symm.trans hstored) fun h => by cases h

end Line

/-! ## The loops of `writeHead` -/

def applyEntry (entry : Option JsString × Option HeaderValue) : Respond :=
  match entry.1 with
  | none => pure ()
  | some name => if name = [] then pure () else setHeader name entry.2

def removeEntry (entry : Option JsString × Option HeaderValue) : Respond :=
  match entry.1 with
  | none => throw ⟨js "ERR_INVALID_ARG_TYPE"⟩
  | some name => removeHeader name

def appendEntry (entry : Option JsString × Option HeaderValue) : Respond :=
  match entry.1 with
  | none => pure ()
  | some name => if name = [] then pure () else appendHeader name entry.2

theorem applyHeaders_object (entries : List (JsString × Option HeaderValue)) :
    applyHeaders (some (.object entries)) =
      (HeadersArgument.object entries).entries.forM applyEntry := by
  rw [HeadersArgument.entries, applyHeaders]
  induction entries with
  | nil => rfl
  | cons entry entries ih =>
      exact congrArg (fun rest : Respond => do applyEntry (some entry.1, entry.2); rest) ih

theorem applyHeaders_array (entries : List (Option JsString × Option HeaderValue)) :
    applyHeaders (some (.array entries none)) =
      (do entries.forM removeEntry; entries.forM appendEntry) := rfl

section Entry

variable (line : HeaderLine)

theorem HeaderLine.name_ne_nil : line.name ≠ [] := by
  intro hnil
  have htoken := line.2
  rw [show line.1.1 = [] from hnil] at htoken
  cases htoken

theorem replayHeader_entry :
    replayHeader line.entry = setHeader line.name (some line.stored.1) := rfl

theorem applyEntry_entry : applyEntry line.entry = setHeader line.name (some line.stored.1) :=
  if_neg line.name_ne_nil

theorem appendEntry_entry : appendEntry line.entry = appendHeader line.name (some line.stored.1) :=
  if_neg line.name_ne_nil

theorem removeEntry_entry : removeEntry line.entry = removeHeader line.name := rfl

end Entry

def DistinctLines (lines : List HeaderLine) : Prop :=
  lines.Pairwise fun line other => ¬ IsProtected line.key → line.key ≠ other.key

theorem DistinctLines.head {line : HeaderLine} {lines : List HeaderLine}
    (h : DistinctLines (line :: lines)) (hline : ¬ IsProtected line.key) :
    line.key ∉ lines.map HeaderLine.key := by
  intro hmem
  obtain ⟨other, hother, heq⟩ := List.mem_map.mp hmem
  exact (List.pairwise_cons.mp h).1 other hother hline heq.symm

namespace Behind

variable {pending : List JsString} {guarded bare : ServerResponse}

theorem settled (h : Behind pending guarded bare)
    (hpending : ∀ key, ¬ IsProtected key → key ∉ pending) : Behind [] guarded bare where
  installed := h.installed
  absent := h.absent
  sent := h.sent
  outHeaders := h.outHeaders
  table hsent key hkey _ := h.table hsent key hkey (hpending key hkey)
  cleared key hkey := by cases hkey

def Pending (lines : List HeaderLine) (pending : List JsString) : Prop :=
  ∀ key, ¬ IsProtected key → (key ∈ pending ↔ key ∈ lines.map HeaderLine.key)

theorem object_step (line : HeaderLine) (h : Behind [] guarded bare) (hsent : bare.sent = none) :
    (replayHeader line.entry).result guarded = .ok () ∧
      (applyEntry line.entry).result bare = .ok () ∧
      Behind [] ((replayHeader line.entry).after guarded) ((applyEntry line.entry).after bare) ∧
      ((applyEntry line.entry).after bare).sent = none := by
  rw [replayHeader_entry, applyEntry_entry]
  obtain ⟨hguarded, _⟩ := setHeader_line line (h.unsent_iff.mpr hsent) h.installed
  obtain ⟨hbare, hafter⟩ := nodeSetHeader_line line hsent h.absent
  refine ⟨hguarded, hbare, h.setHeader line.name _, ?_⟩
  rw [hafter]
  exact hsent

theorem array_step (line : HeaderLine) {rest : List HeaderLine}
    (h : Behind pending guarded bare) (hpending : Pending (line :: rest) pending)
    (hdistinct : ¬ IsProtected line.key → line.key ∉ rest.map HeaderLine.key)
    (hsent : bare.sent = none) :
    (replayHeader line.entry).result guarded = .ok () ∧
      (appendEntry line.entry).result bare = .ok () ∧
      (∃ left, Behind left ((replayHeader line.entry).after guarded)
        ((appendEntry line.entry).after bare) ∧ Pending rest left) ∧
      ((appendEntry line.entry).after bare).sent = none := by
  rw [replayHeader_entry, appendEntry_entry]
  obtain ⟨hguarded, hset⟩ := setHeader_line line (h.unsent_iff.mpr hsent) h.installed
  obtain ⟨hbare, happend⟩ := appendHeader_line line hsent h.absent
  refine ⟨hguarded, hbare, ?_⟩
  by_cases hname : IsProtected line.key
  · have honly := @appendHeader_onlyProtected bare line.name hname (some line.stored.1)
    refine ⟨⟨pending, (h.left (setHeader_onlyProtected hname _)).right honly, ?_⟩,
      honly.sent.trans hsent⟩
    intro key hkey
    rw [hpending key hkey, List.map_cons, List.mem_cons]
    exact or_iff_right fun heq => hkey (heq ▸ hname)
  · have hmem : line.key ∈ pending := (hpending _ hname).mpr List.mem_cons_self
    rw [hset hname, happend (h.cleared _ hmem hname)]
    refine ⟨⟨pending.filter (· ≠ line.key), h.put line.stored ?_ ?_, ?_⟩, hsent⟩
    · exact fun key hkey => (List.mem_filter.mp hkey).1
    · intro key _
      rw [List.mem_filter, decide_eq_true_eq]
      rfl
    · intro key hkey
      rw [List.mem_filter, decide_eq_true_eq, hpending key hkey, List.map_cons, List.mem_cons]
      constructor
      · rintro ⟨heq | hmem, hne⟩
        · exact absurd heq hne
        · exact hmem
      · intro hmem
        exact ⟨Or.inr hmem, fun heq => hdistinct hname (heq ▸ hmem)⟩

theorem object_loop (lines : List HeaderLine) (h : Behind [] guarded bare)
    (hsent : bare.sent = none) :
    ((lines.map HeaderLine.entry).forM replayHeader).result guarded = .ok () ∧
      ((lines.map HeaderLine.entry).forM applyEntry).result bare = .ok () ∧
      Behind [] (((lines.map HeaderLine.entry).forM replayHeader).after guarded)
        (((lines.map HeaderLine.entry).forM applyEntry).after bare) ∧
      (((lines.map HeaderLine.entry).forM applyEntry).after bare).sent = none := by
  have hloop := @forM_lockstep _ _ _ _
    (fun entries guarded bare => ∃ lines : List HeaderLine,
      entries = lines.map HeaderLine.entry ∧ Behind [] guarded bare ∧ bare.sent = none)
    replayHeader applyEntry ?_ _ guarded bare ⟨lines, rfl, h, hsent⟩
  · obtain ⟨hguarded, hbare, _, _, hbehind, hunsent⟩ := hloop
    exact ⟨hguarded, hbare, hbehind, hunsent⟩
  · rintro entry entries guarded bare ⟨_ | ⟨line, rest⟩, hentries, hbehind, hunsent⟩
    · cases hentries
    · obtain ⟨rfl, rfl⟩ := List.cons.inj hentries
      obtain ⟨hguarded, hbare, hnext, hsent⟩ := hbehind.object_step line hunsent
      exact ⟨hguarded, hbare, rest, rfl, hnext, hsent⟩

theorem remove_loop (lines : List HeaderLine) (h : Behind pending guarded bare)
    (hsent : bare.sent = none) :
    ((lines.map HeaderLine.entry).forM removeEntry).result bare = .ok () ∧
      ∃ removed, Behind removed guarded
        (((lines.map HeaderLine.entry).forM removeEntry).after bare) ∧
      (∀ key, ¬ IsProtected key →
        (key ∈ removed ↔ key ∈ pending ∨ key ∈ lines.map HeaderLine.key)) ∧
      (((lines.map HeaderLine.entry).forM removeEntry).after bare).sent = none := by
  induction lines generalizing pending bare with
  | nil => exact ⟨rfl, pending, h, fun key _ => by simp, hsent⟩
  | cons line lines ih =>
      have hremove : (removeEntry line.entry).result bare = .ok () ∧
          (removeEntry line.entry).after bare = bare.erase line.name := by
        rw [removeEntry_entry, X424.removeHeader, result_get_bind, after_get_bind, h.absent,
          if_neg (by decide), nodeRemoveHeader, result_get_bind, after_get_bind, hsent]
        exact ⟨rfl, rfl⟩
      have hafter : (((line :: lines).map HeaderLine.entry).forM removeEntry).after bare =
          ((lines.map HeaderLine.entry).forM removeEntry).after (bare.erase line.name) :=
        (after_bind_ok hremove.1).trans (by rw [hremove.2])
      have hresult : (((line :: lines).map HeaderLine.entry).forM removeEntry).result bare =
          ((lines.map HeaderLine.entry).forM removeEntry).result (bare.erase line.name) :=
        (result_bind_ok hremove.1).trans (by rw [hremove.2])
      obtain ⟨hok, removed, hbehind, hremoved, hunsent⟩ := ih h.erase_right hsent
      rw [hafter, hresult]
      refine ⟨hok, removed, hbehind, fun key hkey => ?_, hunsent⟩
      rw [hremoved key hkey, List.map_cons, List.mem_cons, List.mem_cons, or_assoc,
        or_left_comm]
      rfl

theorem array_loop (lines : List HeaderLine) (h : Behind [] guarded bare)
    (hdistinct : DistinctLines lines) (hsent : bare.sent = none) :
    ((lines.map HeaderLine.entry).forM replayHeader).result guarded = .ok () ∧
      (applyHeaders (some (.array (lines.map HeaderLine.entry) none))).result bare = .ok () ∧
      Behind [] (((lines.map HeaderLine.entry).forM replayHeader).after guarded)
        ((applyHeaders (some (.array (lines.map HeaderLine.entry) none))).after bare) ∧
      ((applyHeaders (some (.array (lines.map HeaderLine.entry) none))).after bare).sent =
        none := by
  obtain ⟨hremove, removed, hbehind, hremoved, hunsent⟩ := remove_loop lines h hsent
  have hloop := @forM_lockstep _ _ _ _
    (fun entries guarded bare => ∃ (lines : List HeaderLine) (pending : List JsString),
      entries = lines.map HeaderLine.entry ∧ Behind pending guarded bare ∧
        Pending lines pending ∧ DistinctLines lines ∧ bare.sent = none)
    replayHeader appendEntry ?_ _ guarded _
    ⟨lines, removed, rfl, hbehind, fun key hkey => by rw [hremoved key hkey]; simp, hdistinct,
      hunsent⟩
  · obtain ⟨hguarded, hbare, lines', pending, hnil, hnext, hpending, _, hend⟩ := hloop
    rw [applyHeaders_array, result_bind_ok hremove, after_bind_ok hremove]
    refine ⟨hguarded, hbare, hnext.settled fun key hkey hmem => ?_, hend⟩
    rw [hpending key hkey, List.map_eq_nil_iff.mp hnil.symm] at hmem
    cases hmem
  · rintro entry entries guarded bare
      ⟨_ | ⟨line, rest⟩, pending, hentries, hbehind, hpending, hdistinct, hunsent⟩
    · cases hentries
    · obtain ⟨rfl, rfl⟩ := List.cons.inj hentries
      obtain ⟨hguarded, hbare, ⟨left, hnext, hleft⟩, hsent⟩ :=
        hbehind.array_step line hpending hdistinct.head hunsent
      exact ⟨hguarded, hbare, rest, left, rfl, hnext, hleft,
        (List.pairwise_cons.mp hdistinct).2, hsent⟩

end Behind

structure Ready (response : ServerResponse) : Prop where
  installed : response.protectedHeadersInstalled = true
  sent : response.sent = none
  outHeaders : response.outHeaders.isSome = true

section Ready

variable {guarded : ServerResponse}

theorem Ready.onlyProtected {next : ServerResponse} (h : Ready guarded)
    (hnext : OnlyProtected guarded next) : Ready next :=
  ⟨hnext.guarded.trans h.installed, hnext.sent.trans h.sent, hnext.outHeaders h.outHeaders⟩

theorem HeaderLine.table_put (line : HeaderLine) (response : ServerResponse) :
    (response.put line.name line.stored).table =
      Function.update response.table line.key (some line.stored) := rfl

theorem Ready.line (h : Ready guarded) (line : HeaderLine)
    (hfree : ¬ IsProtected line.key → guarded.table line.key = none) :
    (replayHeader line.entry).result guarded = .ok () ∧
      Ready ((replayHeader line.entry).after guarded) ∧
      ∀ key, ¬ IsProtected key →
        storedFor ((replayHeader line.entry).after guarded).table key =
          storedFor guarded.table key ++ if line.key = key then line.stored.1.items else [] := by
  rw [replayHeader_entry]
  obtain ⟨hresult, hput⟩ := setHeader_line line h.sent h.installed
  refine ⟨hresult, ?_⟩
  by_cases hname : IsProtected line.key
  · have honly := @setHeader_onlyProtected guarded line.name hname (some line.stored.1)
    refine ⟨h.onlyProtected honly, fun key hkey => ?_⟩
    have hne : line.key ≠ key := by
      rintro rfl
      exact hkey hname
    rw [if_neg hne, List.append_nil, storedFor, storedFor, honly.table key hkey]
  · rw [hput hname]
    refine ⟨⟨h.installed, h.sent, rfl⟩, fun key hkey => ?_⟩
    rw [storedFor, storedFor, line.table_put, Function.update_apply]
    by_cases heq : key = line.key
    · rw [if_pos heq, if_pos heq.symm, heq, hfree hname]
      rfl
    · rw [if_neg heq, if_neg (Ne.symm heq), List.append_nil]

theorem Ready.lines (h : Ready guarded) (lines : List HeaderLine) (hdistinct : DistinctLines lines)
    (hfree : ∀ line ∈ lines, ¬ IsProtected line.key → guarded.table line.key = none) :
    ((lines.map HeaderLine.entry).forM replayHeader).result guarded = .ok () ∧
      Ready (((lines.map HeaderLine.entry).forM replayHeader).after guarded) ∧
      ∀ key, ¬ IsProtected key →
        storedFor (((lines.map HeaderLine.entry).forM replayHeader).after guarded).table key =
          storedFor guarded.table key ++ linesFor (lines.map Subtype.val) key := by
  induction lines generalizing guarded with
  | nil => exact ⟨rfl, h, fun key _ => (List.append_nil _).symm⟩
  | cons line lines ih =>
      obtain ⟨hhead, htail⟩ := List.pairwise_cons.mp hdistinct
      obtain ⟨hresult, hnext, htable⟩ := h.line line (hfree line List.mem_cons_self)
      have hafter : (((line :: lines).map HeaderLine.entry).forM replayHeader).after guarded =
          ((lines.map HeaderLine.entry).forM replayHeader).after
            ((replayHeader line.entry).after guarded) := after_bind_ok hresult
      have hall : (((line :: lines).map HeaderLine.entry).forM replayHeader).result guarded =
          ((lines.map HeaderLine.entry).forM replayHeader).result
            ((replayHeader line.entry).after guarded) := result_bind_ok hresult
      have hfreeNext : ∀ other ∈ lines, ¬ IsProtected other.key →
          ((replayHeader line.entry).after guarded).table other.key = none := by
        intro other hother hkey
        have hnone := hfree other (List.mem_cons_of_mem _ hother) hkey
        by_cases hname : IsProtected line.key
        · rw [replayHeader_entry, (setHeader_onlyProtected hname _).table _ hkey]
          exact hnone
        · rw [replayHeader_entry, (setHeader_line line h.sent h.installed).2 hname, line.table_put,
            Function.update_of_ne (hhead other hother hname).symm]
          exact hnone
      obtain ⟨hok, hready, hrest⟩ := ih hnext htail hfreeNext
      rw [hafter, hall]
      refine ⟨hok, hready, fun key hkey => ?_⟩
      rw [hrest key hkey, htable key hkey, List.append_assoc]
      rfl

end Ready

/-! ## What the guard can replay -/

/-- Headers that Node accepts, without a name twice where the guard would lose the first. -/
inductive HeadersArgument.Replayable (response : ServerResponse) : HeadersArgument → Prop
  | object (lines : List HeaderLine)
      (hdistinct : response.outHeaders.isSome = true ∨ DistinctLines lines) :
      Replayable response (.object (lines.map fun line => (line.name, some line.stored.1)))
  | array (lines : List HeaderLine) (hdistinct : DistinctLines lines) :
      Replayable response (.array (lines.map HeaderLine.entry) none)

/-- The headers are where the guard looks for them, it can replay them and, if there are any,
Node accepts the status. -/
structure WriteHeadArguments.Replayed (STATUS_CODES : ℤ → Option JsString)
    (response : ServerResponse) (given : WriteHeadArguments) : Prop where
  withMessage : given.headers = none ∨ ∃ text, given.statusMessageOrHeaders = .message text
  replayable : ∀ headers, given.directHeaders = some headers → headers.Replayable response
  status : ∀ headers, given.directHeaders = some headers → headers.entries ≠ [] →
    (100 ≤ toInt32 given.statusCode ∧ toInt32 given.statusCode ≤ 999) ∧
      (response.outHeaders.isSome = true ∨
        isNodeHeaderText ((response.withStatus STATUS_CODES given).statusMessage.getD []) = true)

theorem WriteHeadArguments.Replayed.nodeHeaders {STATUS_CODES : ℤ → Option JsString}
    {response : ServerResponse} {given : WriteHeadArguments}
    (h : given.Replayed STATUS_CODES response) : given.nodeHeaders = given.directHeaders := by
  rw [WriteHeadArguments.nodeHeaders, WriteHeadArguments.directHeaders]
  rcases h.withMessage with hnone | ⟨text, htext⟩
  · rw [hnone]
    cases given.statusMessageOrHeaders <;> rfl
  · rw [htext]

structure Alongside (guarded bare : ServerResponse) : Prop where
  behind : Behind [] guarded bare
  status : HasStatus bare.statusCode bare.statusMessage guarded

section WriteHead

variable {guarded bare : ServerResponse}

/-- The headers that the bare response is about to send are those in the store behind the guard. -/
inductive Sending (guarded bare : ServerResponse) (headers : Option HeadersArgument) : Prop
  | stored (hresult : (applyHeaders headers).result bare = .ok ())
      (hbehind : Behind [] guarded ((applyHeaders headers).after bare))
      (hsent : ((applyHeaders headers).after bare).sent = none)
      (hstore : bare.outHeaders.isSome = true)
  | lines (lines : List (JsString × StoredValue)) (hlines : headerLines headers = .ok lines)
      (htable : ∀ key, ¬ IsProtected key → storedFor guarded.table key = linesFor lines key)
      (hstore : bare.outHeaders.isSome = false)

theorem applyHeaders_status {statusCode : ℤ} {statusMessage : Option JsString}
    (headers : Option HeadersArgument) :
    Keeps (HasStatus statusCode statusMessage) (applyHeaders headers) := by
  rcases headers with _ | (entries | ⟨entries, _ | unpaired⟩)
  · exact Keeps.pure ()
  · rw [applyHeaders_object]
    refine Keeps.forM fun entry _ => ?_
    obtain ⟨_ | name, value⟩ := entry
    · exact Keeps.pure _
    · rw [applyEntry]
      dsimp only
      split_ifs
      · exact Keeps.pure _
      · exact setHeader_status name value
  · rw [applyHeaders_array]
    refine Keeps.bind (Keeps.forM fun entry _ => ?_) fun _ => Keeps.forM fun entry _ => ?_
    · obtain ⟨_ | name, value⟩ := entry
      · exact Keeps.throw _
      · exact removeHeader_status name
    · obtain ⟨_ | name, value⟩ := entry
      · exact Keeps.pure _
      · rw [appendEntry]
        dsimp only
        split_ifs
        · exact Keeps.pure _
        · exact appendHeader_status name value
  · exact Keeps.throw _

theorem headerLines_lines (lines : List HeaderLine) :
    (lines.map HeaderLine.entry).mapM validateEntry = Except.ok (lines.map Subtype.val) := by
  induction lines with
  | nil => rfl
  | cons line lines ih =>
      have hline : validateEntry line.entry = .ok (line.name, line.stored) := by
        rw [validateEntry, HeaderLine.entry]
        dsimp only
        rw [line.validate]
        rfl
      rw [List.map_cons, List.mapM_cons, hline, ih]
      rfl

theorem Behind.ready (h : Behind [] guarded bare) (hsent : bare.sent = none) : Ready guarded :=
  ⟨h.installed, h.unsent_iff.mpr hsent, h.outHeaders⟩

theorem Behind.table_none (h : Behind [] guarded bare) (hsent : bare.sent = none)
    (hstore : bare.outHeaders.isSome = false) {key : JsString} (hkey : ¬ IsProtected key) :
    guarded.table key = none := by
  rw [h.table hsent key hkey List.not_mem_nil, ServerResponse.table,
    Option.isSome_eq_false_iff.mp hstore |> Option.isNone_iff_eq_none.mp]
  rfl

theorem Behind.sending {headers : HeadersArgument} (h : Behind [] guarded bare)
    (hsent : bare.sent = none) (hreplayable : headers.Replayable bare) :
    (replayHeaders (some headers)).result guarded = .ok () ∧
      Ready ((replayHeaders (some headers)).after guarded) ∧
      Sending ((replayHeaders (some headers)).after guarded) bare (some headers) := by
  have hfast : ∀ lines : List HeaderLine, headers.entries = lines.map HeaderLine.entry →
      headerLines (some headers) = .ok (lines.map Subtype.val) → DistinctLines lines →
      bare.outHeaders.isSome = false →
      (replayHeaders (some headers)).result guarded = .ok () ∧
        Ready ((replayHeaders (some headers)).after guarded) ∧
        Sending ((replayHeaders (some headers)).after guarded) bare (some headers) := by
    intro lines hentries hlines hdistinct hstore
    rw [replayHeaders_eq, hentries]
    obtain ⟨hresult, hready, htable⟩ := (h.ready hsent).lines lines hdistinct fun line _ hline =>
      h.table_none hsent hstore hline
    refine ⟨hresult, hready, .lines _ hlines (fun key hkey => ?_) hstore⟩
    rw [htable key hkey, storedFor, h.table_none hsent hstore hkey]
    rfl
  cases hreplayable with
  | object lines hdistinct =>
      have hentries : (HeadersArgument.object (lines.map fun line =>
          (line.name, some line.stored.1))).entries = lines.map HeaderLine.entry := by
        rw [HeadersArgument.entries, List.map_map]
        rfl
      cases hstore : bare.outHeaders.isSome with
      | true =>
          obtain ⟨hguarded, hbare, hbehind, hunsent⟩ := h.object_loop lines hsent
          rw [replayHeaders_eq, hentries]
          refine ⟨hguarded, hbehind.ready hunsent, ?_⟩
          rw [← hentries, ← applyHeaders_object] at hbare hbehind hunsent
          rw [← hentries]
          exact .stored hbare hbehind hunsent hstore
      | false =>
          refine hfast lines hentries ?_ (hdistinct.resolve_left (by rw [hstore]; decide)) hstore
          rw [headerLines, List.map_map]
          exact headerLines_lines lines
  | array lines hdistinct =>
      cases hstore : bare.outHeaders.isSome with
      | true =>
          obtain ⟨hguarded, hbare, hbehind, hunsent⟩ := h.array_loop lines hdistinct hsent
          exact ⟨hguarded, hbehind.ready hunsent, .stored hbare hbehind hunsent hstore⟩
      | false => exact hfast lines rfl (headerLines_lines lines) hdistinct hstore

theorem Behind.sending_none (h : Behind [] guarded bare) (hsent : bare.sent = none) :
    Sending guarded bare none := by
  cases hstore : bare.outHeaders.isSome with
  | true => exact .stored rfl h hsent hstore
  | false =>
      refine .lines [] rfl (fun key hkey => ?_) hstore
      rw [storedFor, h.table_none hsent hstore hkey]
      rfl

theorem Behind.sending_option {headers : Option HeadersArgument} (h : Behind [] guarded bare)
    (hsent : bare.sent = none)
    (hreplayable : ∀ given, headers = some given → given.Replayable bare) :
    (replayHeaders headers).result guarded = .ok () ∧
      Ready ((replayHeaders headers).after guarded) ∧
      Sending ((replayHeaders headers).after guarded) bare headers := by
  cases headers with
  | none => exact ⟨rfl, h.ready hsent, h.sending_none hsent⟩
  | some given => exact h.sending hsent (hreplayable given rfl)

theorem storeHead_alongside {headers others : JsString → List JsString} (hready : Ready guarded)
    (habsent : bare.protectedHeadersInstalled = false)
    (hstatus : HasStatus bare.statusCode bare.statusMessage guarded)
    (hheaders : ∀ key, ¬ IsProtected key → headers key = others key)
    (hquiet : isNodeHeaderText (bare.statusMessage.getD []) = false → Behind [] guarded bare) :
    Alongside ((storeHead headers).after guarded) ((storeHead others).after bare) := by
  rw [storeHead, storeHead, after_get_bind, after_get_bind]
  dsimp only
  rw [hstatus.2]
  cases hmessage : isNodeHeaderText (bare.statusMessage.getD []) with
  | true =>
      refine ⟨⟨hready.installed, habsent, ?_, hready.outHeaders, fun h => (by cases h),
        fun _ h => absurd h List.not_mem_nil⟩, hstatus⟩
      exact .some ⟨hstatus.1, rfl, hheaders⟩
  | false => exact ⟨hquiet hmessage, hstatus⟩

theorem replayHeaders_status {statusCode : ℤ} {statusMessage : Option JsString}
    (headers : Option HeadersArgument) :
    Keeps (HasStatus statusCode statusMessage) (replayHeaders headers) := by
  cases headers with
  | none => exact Keeps.pure ()
  | some headers =>
      rw [replayHeaders_eq]
      refine Keeps.forM fun entry _ => ?_
      obtain ⟨_ | name, _ | value⟩ := entry
      · exact Keeps.pure _
      · exact Keeps.pure _
      · exact Keeps.pure _
      · exact setHeader_status name _

theorem guardedWriteHead_sent (STATUS_CODES : ℤ → Option JsString) (given : WriteHeadArguments)
    {head : ResponseHead} (hinstalled : guarded.protectedHeadersInstalled = true)
    (hsent : guarded.sent = some head) :
    (guardedWriteHead STATUS_CODES given).after guarded = guarded := by
  have hnode : ∀ name value, Keeps (· = guarded) (nodeSetHeader name value) := by
    intro name value response heq
    rw [heq]
    rcases nodeSetHeader_cases name value guarded with ⟨stored, hnone, _⟩ | ⟨_, hafter⟩
    · rw [hsent] at hnone
      cases hnone
    · exact hafter
  have hset : ∀ name value, Keeps (· = guarded) (setHeader name value) := by
    intro name value response heq
    rw [heq, setHeader, after_get_bind, if_pos hinstalled, guardedSetHeader]
    split_ifs
    · exact hnode _ _ _ rfl
    · exact hnode _ _ _ rfl
    · exact hnode _ _ _ rfl
  have hreplay : Keeps (· = guarded) (replayHeaders given.directHeaders) := by
    cases given.directHeaders with
    | none => exact Keeps.pure ()
    | some headers =>
        rw [replayHeaders_eq]
        refine Keeps.forM fun entry _ => ?_
        obtain ⟨_ | name, _ | value⟩ := entry
        · exact Keeps.pure _
        · exact Keeps.pure _
        · exact Keeps.pure _
        · exact hset name _
  refine Keeps.bind hreplay (fun _ response heq => ?_) guarded rfl
  rw [heq]
  obtain ⟨hresult, hafter⟩ := forceProtectedHeaders_sent hsent
  rw [after_bind_error hresult, hafter]

/-! ## writeHead -/

section Send

variable {STATUS_CODES : ℤ → Option JsString} {given : WriteHeadArguments}

theorem nodeWriteHead_unsent (hsent : bare.sent = none) :
    (nodeWriteHead STATUS_CODES given).after bare =
      if toInt32 given.statusCode < 100 ∨ 999 < toInt32 given.statusCode then bare
      else (sendHeaders given.nodeHeaders).after (bare.withStatus STATUS_CODES given) := by
  rw [nodeWriteHead, after_get_bind, hsent, if_neg (by decide)]
  split_ifs
  · rfl
  · rw [after_bind_ok (result_modify _), after_modify]

theorem forcedWriteHead_after (hready : Ready guarded) :
    (do forceProtectedHeaders; nodeWriteHead STATUS_CODES given.withoutHeaders : Respond).after
        guarded =
      if toInt32 given.statusCode < 100 ∨ 999 < toInt32 given.statusCode then guarded.forced
      else
        (storeHead (storedFor guarded.forced.table)).after
          (guarded.forced.withStatus STATUS_CODES given) := by
  obtain ⟨hresult, hafter⟩ := forceProtectedHeaders_ok hready.sent
  have hheaders : given.withoutHeaders.nodeHeaders = none := by
    rw [WriteHeadArguments.withoutHeaders]
    cases given.statusMessageOrHeaders <;> rfl
  have hcode : given.withoutHeaders.statusCode = given.statusCode := by
    rw [WriteHeadArguments.withoutHeaders]
    cases given.statusMessageOrHeaders <;> rfl
  have hstatus : guarded.forced.withStatus STATUS_CODES given.withoutHeaders =
      guarded.forced.withStatus STATUS_CODES given := by
    rw [ServerResponse.withStatus, ServerResponse.withStatus, WriteHeadArguments.withoutHeaders]
    cases given.statusMessageOrHeaders <;> rfl
  rw [after_bind_ok hresult, hafter, nodeWriteHead_unsent (show guarded.forced.sent = none from
    hready.sent), hcode, hheaders, hstatus]
  rfl

theorem HeadersArgument.Replayable.congr {headers : HeadersArgument} {next : ServerResponse}
    (h : headers.Replayable bare) (hstore : next.outHeaders = bare.outHeaders) :
    headers.Replayable next := by
  cases h with
  | object lines hdistinct => exact .object lines (hstore ▸ hdistinct)
  | array lines hdistinct => exact .array lines hdistinct

theorem Behind.withStatus_right (h : Behind [] guarded bare) :
    Behind [] guarded (bare.withStatus STATUS_CODES given) :=
  ⟨h.installed, h.absent, h.sent, h.outHeaders, h.table, h.cleared⟩

theorem Behind.withStatus_left (h : Behind [] guarded bare) :
    Behind [] (guarded.withStatus STATUS_CODES given) bare :=
  ⟨h.installed, h.absent, h.sent, h.outHeaders, h.table, h.cleared⟩

theorem replayHeaders_idle {headers : Option HeadersArgument}
    (h : ∀ given, headers = some given → given.entries = []) :
    (replayHeaders headers).after guarded = guarded := by
  cases headers with
  | none => rfl
  | some given =>
      rw [replayHeaders_eq, h given rfl]
      rfl

theorem HasStatus.withStatus (h : HasStatus bare.statusCode bare.statusMessage guarded) :
    HasStatus (bare.withStatus STATUS_CODES given).statusCode
      (bare.withStatus STATUS_CODES given).statusMessage
      (guarded.withStatus STATUS_CODES given) := by
  rw [HasStatus, ServerResponse.withStatus, ServerResponse.withStatus, h.2]
  exact ⟨rfl, rfl⟩

theorem writeHead_unsent (h : Alongside guarded bare) (hsent : bare.sent = none)
    (hreplayed : given.Replayed STATUS_CODES bare) :
    Alongside ((guardedWriteHead STATUS_CODES given).after guarded)
      ((nodeWriteHead STATUS_CODES given).after bare) := by
  have hbare := @Behind.withStatus_right guarded bare STATUS_CODES given h.behind
  obtain ⟨hresult, hready, hsending⟩ := @Behind.sending_option _ _ given.directHeaders hbare hsent
    fun headers hheaders => (hreplayed.replayable headers hheaders).congr rfl
  have hstatus := replayHeaders_status given.directHeaders guarded h.status
  have hforcedStatus : HasStatus bare.statusCode bare.statusMessage
      ((replayHeaders given.directHeaders).after guarded).forced := by
    rw [← (forceProtectedHeaders_ok hready.sent).2]
    exact forceProtectedHeaders_status _ hstatus
  have hforced : OnlyProtected ((replayHeaders given.directHeaders).after guarded)
      ((replayHeaders given.directHeaders).after guarded).forced := by
    rw [← (forceProtectedHeaders_ok hready.sent).2]
    exact forceProtectedHeaders_onlyProtected _
  rw [guardedWriteHead, after_bind_ok hresult, forcedWriteHead_after hready,
    nodeWriteHead_unsent hsent]
  have hidle : (∀ headers, given.directHeaders = some headers → headers.entries = []) →
      Behind [] ((replayHeaders given.directHeaders).after guarded).forced bare := by
    intro hempty
    have hbehind := h.behind
    rw [← @replayHeaders_idle guarded _ hempty] at hbehind
    exact hbehind.left hforced
  split_ifs with hrange
  · refine ⟨hidle fun headers hheaders => ?_, hforcedStatus⟩
    by_contra hne
    have := (hreplayed.status headers hheaders hne).1
    omega
  · rw [hreplayed.nodeHeaders, sendHeaders, after_get_bind]
    have hunsent : Ready (((replayHeaders given.directHeaders).after guarded).forced.withStatus
        STATUS_CODES given) :=
      ⟨(hready.onlyProtected hforced).installed, (hready.onlyProtected hforced).sent,
        (hready.onlyProtected hforced).outHeaders⟩
    cases hsending with
    | stored happlied hbehind hnext hstore =>
        rw [if_pos hstore, after_bind_ok happlied, after_get_bind]
        obtain ⟨hcode, hmessage⟩ := applyHeaders_status given.directHeaders
          (bare.withStatus STATUS_CODES given) ⟨rfl, rfl⟩
        refine storeHead_alongside hunsent hbehind.absent ?_ (fun key hkey => ?_) fun _ =>
          (hbehind.left hforced).withStatus_left
        · rw [hcode, hmessage]
          exact hforcedStatus.withStatus
        · rw [storedFor, storedFor, hforced.table key hkey,
            hbehind.table hnext key hkey List.not_mem_nil]
          rfl
    | lines lines hlines htable hstore =>
        rw [if_neg (by rw [hstore]; decide), hlines]
        refine storeHead_alongside hunsent hbare.absent hforcedStatus.withStatus
          (fun key hkey => ?_) fun hmessage => ?_
        · rw [← htable key hkey, storedFor, storedFor, hforced.table key hkey]
        · refine (hidle fun headers hheaders => ?_).withStatus_left.withStatus_right
          by_contra hne
          rcases (hreplayed.status headers hheaders hne).2 with hsome | hvalid
          · exact absurd (hsome.symm.trans hstore) (by decide)
          · exact absurd (hvalid.symm.trans hmessage) (by decide)

theorem writeHead_alongside (h : Alongside guarded bare)
    (hreplayed : bare.sent = none → given.Replayed STATUS_CODES bare) :
    Alongside ((writeHead STATUS_CODES given).after guarded)
      ((writeHead STATUS_CODES given).after bare) := by
  rw [writeHead, after_get_bind, after_get_bind, if_pos h.behind.installed,
    if_neg (by rw [h.behind.absent]; decide)]
  rcases Option.eq_none_or_eq_some bare.sent with hsent | ⟨head, hsent⟩
  · exact writeHead_unsent h hsent (hreplayed hsent)
  · obtain ⟨other, hother⟩ := h.behind.sent_of_sent hsent
    rw [guardedWriteHead_sent STATUS_CODES given h.behind.installed hother, nodeWriteHead,
      after_get_bind, hsent]
    exact h

end Send

end WriteHead

/-! ## Runs -/

section Runs

variable (STATUS_CODES : ℤ → Option JsString)

def HandlerCall.Replayed (response : ServerResponse) : HandlerCall → Prop
  | .writeHead given => response.sent = none → given.Replayed STATUS_CODES response
  | .appendHeader _ _ => False
  | _ => True

variable {guarded bare : ServerResponse}

theorem setHeader_alongside (h : Alongside guarded bare) (name : JsString)
    (value : Option HeaderValue) :
    Alongside ((setHeader name value).after guarded) ((setHeader name value).after bare) := by
  obtain ⟨hcode, hmessage⟩ := setHeader_status name value bare ⟨rfl, rfl⟩
  refine ⟨h.behind.setHeader name value, ?_⟩
  rw [hcode, hmessage]
  exact setHeader_status name value guarded h.status

theorem removeHeader_alongside (h : Alongside guarded bare) (name : JsString) :
    Alongside ((removeHeader name).after guarded) ((removeHeader name).after bare) := by
  obtain ⟨hcode, hmessage⟩ := removeHeader_status name bare ⟨rfl, rfl⟩
  refine ⟨h.behind.removeHeader name, ?_⟩
  rw [hcode, hmessage]
  exact removeHeader_status name guarded h.status

theorem perform_alongside {call : HandlerCall} (h : Alongside guarded bare)
    (hreplayed : call.Replayed STATUS_CODES bare) :
    Alongside ((call.perform STATUS_CODES).after guarded)
      ((call.perform STATUS_CODES).after bare) := by
  cases call with
  | setHeader name value => exact setHeader_alongside h name value
  | appendHeader name value => exact hreplayed.elim
  | removeHeader name => exact removeHeader_alongside h name
  | writeHead given => exact writeHead_alongside h hreplayed
  | implicitHeader =>
      rw [HandlerCall.perform, implicitHeader, after_get_bind, after_get_bind]
      rcases Option.eq_none_or_eq_some bare.sent with hsent | ⟨head, hsent⟩
      · rw [hsent, h.behind.unsent_iff.mpr hsent, if_neg (by decide), if_neg (by decide),
          h.status.1]
        exact writeHead_alongside h fun _ =>
          ⟨Or.inl rfl, fun _ h => (by cases h), fun _ h => (by cases h)⟩
      · obtain ⟨other, hother⟩ := h.behind.sent_of_sent hsent
        rw [hsent, hother]
        exact h

theorem afterCalls_alongside {calls : List HandlerCall} (h : Alongside guarded bare)
    (hreplayed : ∀ earlier call later, calls = earlier ++ call :: later →
      call.Replayed STATUS_CODES (afterCalls STATUS_CODES bare earlier)) :
    Alongside (afterCalls STATUS_CODES guarded calls) (afterCalls STATUS_CODES bare calls) := by
  induction calls generalizing guarded bare with
  | nil => exact h
  | cons call calls ih =>
      refine ih (perform_alongside STATUS_CODES h (hreplayed [] call calls rfl)) ?_
      rintro earlier next later rfl
      exact hreplayed (call :: earlier) next later rfl

theorem installExpressProtectedHeaders_alongside {response : ServerResponse}
    (hfresh : response.protectedHeadersInstalled = false)
    (hresult : installExpressProtectedHeaders.result response = .ok ()) :
    Alongside (installExpressProtectedHeaders.after response) response := by
  rw [installExpressProtectedHeaders, result_get_bind, hfresh, if_neg (by decide),
    result_bind_ok (result_modify _), after_modify] at hresult
  rw [installExpressProtectedHeaders, after_get_bind, hfresh, if_neg (by decide),
    after_bind_ok (result_modify _), after_modify]
  rcases Option.eq_none_or_eq_some response.sent with hsent | ⟨head, hsent⟩
  · have hforced := forceProtectedHeaders_onlyProtected
      { response with protectedHeadersInstalled := true }
    have hstatus := forceProtectedHeaders_status
      { response with protectedHeadersInstalled := true }
      (show HasStatus response.statusCode response.statusMessage _ from ⟨rfl, rfl⟩)
    have hok := (@forceProtectedHeaders_ok { response with protectedHeadersInstalled := true }
      hsent).2
    refine ⟨⟨hforced.guarded, hfresh, ?_, ?_, fun _ key hkey _ => hforced.table key hkey,
      fun _ h => absurd h List.not_mem_nil⟩, hstatus⟩
    · rw [hforced.sent, hsent]
      exact .none
    · rw [hok]
      rfl
  · rw [(@forceProtectedHeaders_sent { response with protectedHeadersInstalled := true } head
      hsent).1] at hresult
    cases hresult

/--
In runs whose calls of `writeHead` the guard can replay, the head behind the
guard and the one without it have the same status and the same values under
every name but those that the guard owns.
-/
theorem guardedHead_same (response : ServerResponse) (calls : List HandlerCall)
    (hfresh : response.protectedHeadersInstalled = false)
    (hinstalled : installExpressProtectedHeaders.result response = .ok ())
    (hreplayed : ∀ earlier call later, calls = earlier ++ call :: later →
      call.Replayed STATUS_CODES (afterCalls STATUS_CODES response earlier)) :
    Option.Rel SameHead
      (afterCalls STATUS_CODES (installExpressProtectedHeaders.after response) calls).sent
      (afterCalls STATUS_CODES response calls).sent :=
  (afterCalls_alongside STATUS_CODES
    (installExpressProtectedHeaders_alongside hfresh hinstalled) hreplayed).behind.sent

end Runs

/-! ## Calls that the guard does not replay -/

/-- `response.writeHead(200, undefined, { "x-request-id": "7" })`. -/
def requestIdUndefined : HandlerCall :=
  .writeHead ⟨200, .undefined, some (.object [(js "x-request-id", some (.single (js "7")))])⟩

/-- `response.writeHead(200, ["set-cookie", "a=1", "set-cookie", "b=2"])`. -/
def twoCookies : HandlerCall :=
  .writeHead ⟨200, .headers (.array [(some (js "set-cookie"), some (.single (js "a=1"))),
    (some (js "set-cookie"), some (.single (js "b=2")))] none), none⟩

private theorem not_sameHead {guarded bare : Option ResponseHead} {name : JsString}
    {values others : List JsString} (hguarded : guarded.map (·.headers name) = some values)
    (hbare : bare.map (·.headers name) = some others) (hname : ¬ IsProtected name)
    (hne : values ≠ others) : ¬ Option.Rel SameHead guarded bare := by
  intro hrel
  cases hrel with
  | none => cases hguarded
  | some hsame =>
      apply hne
      rw [← Option.some.inj hguarded, ← Option.some.inj hbare]
      exact hsame.headers name hname

instance (key : JsString) : Decidable (IsProtected key) :=
  inferInstanceAs (Decidable (_ ∨ _))

theorem writeHead_headersLost :
    ¬ Option.Rel SameHead
        (afterCalls noStatusCodes (installExpressProtectedHeaders.after expressResponse)
          [requestIdUndefined]).sent
        (afterCalls noStatusCodes expressResponse [requestIdUndefined]).sent ∧
      ¬ Option.Rel SameHead
        (afterCalls noStatusCodes (installExpressProtectedHeaders.after expressResponse)
          [twoCookies]).sent
        (afterCalls noStatusCodes expressResponse [twoCookies]).sent := by
  constructor
  · exact @not_sameHead _ _ (js "x-request-id") [] [js "7"] (by decide) (by decide) (by decide)
      (by decide)
  · exact @not_sameHead _ _ (js "set-cookie") [js "b=2"] [js "a=1", js "b=2"] (by decide)
      (by decide) (by decide) (by decide)

theorem guardedHead_same_cookie :
    Option.Rel SameHead
      (afterCalls noStatusCodes (installExpressProtectedHeaders.after expressResponse)
        [.setHeader (js "set-cookie") (some (.list [js "a=1", js "b=2"])),
          .writeHead ⟨404, .message (js "Missing"),
            some (.array [(some (js "x-request-id"), some (.single (js "7")))] none)⟩]).sent
      (afterCalls noStatusCodes expressResponse
        [.setHeader (js "set-cookie") (some (.list [js "a=1", js "b=2"])),
          .writeHead ⟨404, .message (js "Missing"),
            some (.array [(some (js "x-request-id"), some (.single (js "7")))] none)⟩]).sent := by
  apply guardedHead_same noStatusCodes expressResponse _ rfl rfl
  rintro (_ | ⟨first, _ | ⟨second, earlier⟩⟩) call later heq
  · obtain ⟨rfl, _⟩ := List.cons.inj heq
    trivial
  · obtain ⟨hfirst, heq⟩ := List.cons.inj heq
    obtain ⟨hsecond, _⟩ := List.cons.inj heq
    rw [← hfirst, ← hsecond]
    intro _
    let line : HeaderLine := ⟨(js "x-request-id", ⟨.single (js "7"), by decide⟩), by decide⟩
    refine ⟨Or.inr ⟨_, rfl⟩, ?_, ?_⟩
    · rintro _ ⟨⟩
      exact .array [line] (List.pairwise_singleton _ _)
    · intro _ _ _
      exact ⟨⟨by decide, by decide⟩, Or.inl (by decide)⟩
  · have hlength := congrArg List.length heq
    simp at hlength

end X424
