import Mathlib.Data.Set.Function
import X424.Foundation.Machine
import X424.Keys.PairwiseDeriver
import X424.ProviderReplay
import X424.Satisfaction

/-!
# Provider subjects are spent once

The keys of the entries that `satisfy` asks a store to retain, and every
interleaving of consume calls.  A call is sent, executed in one step and
answered; what a store answers depends on the calls that it has executed for
the same entry only.
-/

namespace X424

open Foundation Foundation.Paths

/-! ## Keys -/

namespace ProviderReplayEntry

/-- What an entry is that `satisfy` may produce. -/
structure Produced (entry : ProviderReplayEntry) : Prop where
  providerId : isHumanMethodIdentifier entry.providerId = true
  methodId : isHumanMethodIdentifier entry.methodId = true
  scopeId : entry.uniquenessScope.id ≠ []
  scopeWellFormed : toWellFormed entry.uniquenessScope.id = entry.uniquenessScope.id
  subjectDigest : isReplayDigest entry.subjectDigest = true

theorem join_eq (separator : UInt16) (entry : ProviderReplayEntry) :
    entry.join separator = entry.providerId ++ separator :: (entry.methodId ++ separator ::
      (entry.uniquenessScope.kind.text ++ separator ::
        (entry.uniquenessScope.id ++ separator :: entry.subjectDigest))) := by
  simp [join, parts, List.intercalate]

theorem scopeKind_units (kind : UniquenessScopeKind) :
    ∀ u ∈ kind.text, isIdentifierUnit u = true := by
  refine List.all_eq_true.mp ?_
  cases kind <;> decide

theorem length_replayDigest {text : JsString} (h : isReplayDigest text = true) :
    text.length = 55 := by
  simp only [isReplayDigest, Bool.and_eq_true, beq_iff_eq] at h
  exact h.1.2

theorem replayDigest_ascii {text : JsString} (h : isReplayDigest text = true) :
    ∀ u ∈ text, u < 0x80 := by
  simp only [isReplayDigest, Bool.and_eq_true, beq_iff_eq, List.all_eq_true] at h
  obtain ⟨⟨hname, -⟩, hunits⟩ := h
  intro u hu
  rw [← List.take_append_drop 12 text, List.mem_append] at hu
  rcases hu with hu | hu
  · rw [hname] at hu
    have hall : (js "hmac-sha256:").all (fun u => decide (u < 0x80)) = true := by decide
    exact of_decide_eq_true (List.all_eq_true.mp hall u hu)
  · have hunit := hunits u hu
    simp only [isBase64UrlUnit, Bool.or_eq_true, Bool.and_eq_true, decide_eq_true_eq, beq_iff_eq,
      UInt16.le_iff_toNat_le, ← UInt16.toNat_inj, UInt16.reduceToNat] at hunit
    simp only [UInt16.lt_iff_toNat_lt, UInt16.reduceToNat]
    omega

section Join

variable {entry other : ProviderReplayEntry} {separator : UInt16}

theorem join_inj (hseparator : isIdentifierUnit separator = false) (h : entry.Produced)
    (h' : other.Produced) : entry.join separator = other.join separator ↔ entry = other := by
  have hfree : ∀ {text : JsString}, (∀ u ∈ text, isIdentifierUnit u = true) →
      separator ∉ text := fun hunits hmem => by
    rw [hunits separator hmem] at hseparator
    cases hseparator
  refine ⟨fun hjoin => ?_, fun heq => congrArg _ heq⟩
  rw [join_eq, join_eq,
    append_cons_inj (hfree (identifier_units h.providerId))
      (hfree (identifier_units h'.providerId)),
    append_cons_inj (hfree (identifier_units h.methodId)) (hfree (identifier_units h'.methodId)),
    append_cons_inj (hfree (scopeKind_units _)) (hfree (scopeKind_units _))] at hjoin
  obtain ⟨hprovider, hmethod, hkind, hrest⟩ := hjoin
  have hlength : (separator :: entry.subjectDigest).length =
      (separator :: other.subjectDigest).length := by
    rw [List.length_cons, List.length_cons, length_replayDigest h.subjectDigest,
      length_replayDigest h'.subjectDigest]
  obtain ⟨hscope, hdigest⟩ := List.append_inj' hrest hlength
  obtain ⟨providerId, methodId, ⟨kind, id⟩, subjectDigest⟩ := entry
  obtain ⟨providerId', methodId', ⟨kind', id'⟩, subjectDigest'⟩ := other
  cases hprovider
  cases hmethod
  cases scopeKind_text_inj.mp hkind
  cases hscope
  cases hdigest
  rfl

theorem isText_join (hseparator : separator < 0x80) (h : entry.Produced) :
    IsText (entry.join separator) := by
  have hunit : IsText [separator] := isText_ascii (List.forall_mem_singleton.mpr hseparator)
  have hidentifier : ∀ {text : JsString}, (∀ u ∈ text, isIdentifierUnit u = true) →
      IsText text := fun hunits => isText_ascii fun u hu => isIdentifierUnit_ascii (hunits u hu)
  have hscope : IsText entry.uniquenessScope.id := by
    rw [← h.scopeWellFormed]
    exact isText_toWellFormed _
  have hcons : ∀ {front back : JsString}, IsText front → IsText back →
      IsText (front ++ separator :: back) := fun hfront hback =>
    hfront.append (hunit.append hback)
  rw [join_eq]
  exact hcons (hidentifier (identifier_units h.providerId)) (hcons
    (hidentifier (identifier_units h.methodId)) (hcons (hidentifier (scopeKind_units _)) (hcons
      hscope (isText_ascii (replayDigest_ascii h.subjectDigest)))))

theorem utf8_join_inj (hseparator : isIdentifierUnit separator = false) (hascii : separator < 0x80)
    (h : entry.Produced) (h' : other.Produced) :
    utf8 (entry.join separator) = utf8 (other.join separator) ↔ entry = other :=
  ⟨fun heq => (join_inj hseparator h h').mp
    (utf8_injective (isText_join hascii h) (isText_join hascii h') heq), fun heq => heq ▸ rfl⟩

theorem Produced.incomplete_eq (h : entry.Produced) : entry.incomplete = false := by
  have hidentifier : ∀ {text : JsString}, isHumanMethodIdentifier text = true →
      text.isEmpty = false := by
    intro text htext
    cases text with
    | nil => cases htext
    | cons u rest => rfl
  have hdigest : entry.subjectDigest.isEmpty = false := by
    rw [List.isEmpty_eq_false_iff]
    intro hnil
    have hlength := length_replayDigest h.subjectDigest
    rw [hnil] at hlength
    cases hlength
  rw [incomplete, hidentifier h.providerId, hidentifier h.methodId,
    List.isEmpty_eq_false_iff.mpr h.scopeId, hdigest]
  rfl

end Join

end ProviderReplayEntry

/-! ## Calls in flight -/

inductive ConsumePhase where
  | idle
  | sent (entry : ProviderReplayEntry)
  | returned (entry : ProviderReplayEntry) (consumed : Bool)

structure ConsumeState (ι : Type) where
  spent : SpentKeys
  phase : ι → ConsumePhase
  /-- The calls that the store has executed and their answers, the last one first. -/
  log : List (ι × ProviderReplayEntry × Bool)

inductive ConsumeEvent (ι : Type) where
  | call (i : ι) (entry : ProviderReplayEntry)
  | execute (i : ι)

/-- The event calls with an entry of the set only. -/
def ConsumeEvent.Within {ι : Type} (entries : Set ProviderReplayEntry) : ConsumeEvent ι → Prop
  | call _ entry => entry ∈ entries
  | execute _ => True

section Machine

variable {ι : Type} [DecidableEq ι] (store : ProviderReplayStore)

def ConsumeState.initial : ConsumeState ι := ⟨[], fun _ => .idle, []⟩

def consumeStep (s : ConsumeState ι) : ConsumeEvent ι → Option (ConsumeState ι)
  | .call i entry =>
      match s.phase i with
      | .sent _ => none
      | _ => some { s with phase := Function.update s.phase i (.sent entry) }
  | .execute i =>
      match s.phase i with
      | .sent entry =>
          let reply := store.consume entry s.spent
          some
            { spent := reply.2
              phase := Function.update s.phase i (.returned entry reply.1)
              log := (i, entry, reply.1) :: s.log }
      | _ => none

def consumeMachine : Machine (ConsumeState ι) (ConsumeEvent ι) := ⟨consumeStep store⟩

end Machine

/-- A call was answered `true` if and only if no earlier one was for its entry. -/
def SpentOnce {ι : Type} : List (ι × ProviderReplayEntry × Bool) → Prop
  | [] => True
  | (_, entry, consumed) :: earlier =>
      (consumed = true ↔ ∀ call ∈ earlier, call.2.1 ≠ entry) ∧ SpentOnce earlier

/-- Entries have keys of their own, and the first call for each is the one that spends it. -/
structure ProviderReplayStore.SpendsOnce (store : ProviderReplayStore)
    (entries : Set ProviderReplayEntry) : Prop where
  keys : ∀ entry ∈ entries, ∀ other ∈ entries, store.key entry = store.key other ↔ entry = other
  runs : ∀ (ι : Type) [DecidableEq ι] (events : List (ConsumeEvent ι)) (s : ConsumeState ι),
    (consumeMachine store).Along (fun _ event => event.Within entries) .initial events →
    (consumeMachine store).run .initial events = some s →
    SpentOnce s.log ∧
      ∀ i entry consumed, s.phase i = .returned entry consumed → (i, entry, consumed) ∈ s.log

namespace ProviderReplayStore

variable {ι : Type} [DecidableEq ι] {store : ProviderReplayStore}
  {entries : Set ProviderReplayEntry} {s t : ConsumeState ι}

structure ConsumeInvariant (store : ProviderReplayStore) (entries : Set ProviderReplayEntry)
    (s : ConsumeState ι) : Prop where
  sent : ∀ {i entry}, s.phase i = .sent entry → entry ∈ entries
  logged : ∀ call ∈ s.log, call.2.1 ∈ entries
  spent : ∀ key, key ∈ s.spent ↔ ∃ call ∈ s.log, store.key call.2.1 = some key
  once : SpentOnce s.log
  returned : ∀ i entry consumed, s.phase i = .returned entry consumed →
    (i, entry, consumed) ∈ s.log

omit [DecidableEq ι] in
theorem ConsumeInvariant.initial :
    ConsumeInvariant store entries (ConsumeState.initial : ConsumeState ι) where
  sent h := nomatch h
  logged := List.forall_mem_nil _
  spent _ := iff_of_false List.not_mem_nil fun ⟨_, h, _⟩ => List.not_mem_nil h
  once := trivial
  returned _ _ _ h := nomatch h

theorem ConsumeInvariant.call (h : ConsumeInvariant store entries s) {i : ι}
    {entry : ProviderReplayEntry} (hentry : entry ∈ entries) :
    ConsumeInvariant store entries
      { s with phase := Function.update s.phase i (.sent entry) } := by
  refine ⟨fun {j other} hphase => ?_, h.logged, h.spent, h.once, fun j other consumed hphase => ?_⟩
  · by_cases hj : j = i
    · subst hj
      simp only [Function.update_self] at hphase
      cases hphase
      exact hentry
    · simp only [Function.update_of_ne hj] at hphase
      exact h.sent hphase
  · by_cases hj : j = i
    · subst hj
      simp only [Function.update_self] at hphase
      cases hphase
    · simp only [Function.update_of_ne hj] at hphase
      exact h.returned j other consumed hphase

variable (hkey : ∀ entry ∈ entries, ∃ key, store.key entry = some key)
  (hkeys : ∀ entry ∈ entries, ∀ other ∈ entries, store.key entry = store.key other ↔ entry = other)

include hkey hkeys

theorem ConsumeInvariant.execute (h : ConsumeInvariant store entries s) {i : ι}
    {entry : ProviderReplayEntry} (hphase : s.phase i = .sent entry) :
    ConsumeInvariant store entries
      { spent := (store.consume entry s.spent).2
        phase := Function.update s.phase i (.returned entry (store.consume entry s.spent).1)
        log := (i, entry, (store.consume entry s.spent).1) :: s.log } := by
  have hentry := h.sent hphase
  obtain ⟨key, hentryKey⟩ := hkey entry hentry
  have hsame : ∀ call ∈ s.log, store.key call.2.1 = some key ↔ call.2.1 = entry :=
    fun call hcall => by rw [← hentryKey, hkeys _ (h.logged call hcall) _ hentry]
  have hspent : key ∈ s.spent ↔ ∃ call ∈ s.log, call.2.1 = entry := by
    rw [h.spent]
    exact exists_congr fun call => and_congr_right fun hcall => hsame call hcall
  have hconsume : store.consume entry s.spent =
      if key ∈ s.spent then (false, s.spent) else (true, key :: s.spent) := by
    simp only [consume, hentryKey, List.contains_iff_mem]
  refine ⟨fun {j other} hsent => ?_, List.forall_mem_cons.mpr ⟨hentry, h.logged⟩, fun other => ?_,
    ⟨?_, h.once⟩, fun j other consumed hreturned => ?_⟩
  · by_cases hj : j = i
    · subst hj
      simp only [Function.update_self] at hsent
      cases hsent
    · simp only [Function.update_of_ne hj] at hsent
      exact h.sent hsent
  · simp only [List.exists_mem_cons_iff, ← h.spent, hentryKey, Option.some.injEq, hconsume]
    split_ifs with hmem
    · exact ⟨Or.inr, fun hor => hor.elim (fun heq => heq ▸ hmem) id⟩
    · simp only [List.mem_cons, eq_comm]
  · rw [hconsume]
    split_ifs with hmem
    · obtain ⟨call, hcall, heq⟩ := hspent.mp hmem
      exact iff_of_false (by simp) fun hnone => hnone call hcall heq
    · exact iff_of_true rfl fun call hcall heq => hmem (hspent.mpr ⟨call, hcall, heq⟩)
  · by_cases hj : j = i
    · subst hj
      simp only [Function.update_self] at hreturned
      cases hreturned
      exact List.mem_cons_self
    · simp only [Function.update_of_ne hj] at hreturned
      exact List.mem_cons_of_mem _ (h.returned j other consumed hreturned)

theorem ConsumeInvariant.step (h : ConsumeInvariant store entries s) {event : ConsumeEvent ι}
    (hevent : event.Within entries) (hstep : consumeStep store s event = some t) :
    ConsumeInvariant store entries t := by
  cases event with
  | call i entry =>
      simp only [consumeStep] at hstep
      split at hstep
      · cases hstep
      · cases hstep
        exact h.call hevent
  | execute i =>
      simp only [consumeStep] at hstep
      split at hstep
      · next entry hphase =>
        cases hstep
        exact h.execute hkey hkeys hphase
      · cases hstep

theorem spendsOnce_of_keys : store.SpendsOnce entries where
  keys := hkeys
  runs ι _ events s halong hrun := by
    have hfinal := (consumeMachine (ι := ι) store).invariant_along
      (I := ConsumeInvariant store entries)
      (fun _ _ _ h hevent hstep => h.step hkey hkeys hevent hstep) .initial halong hrun
    exact ⟨hfinal.once, hfinal.returned⟩

end ProviderReplayStore

/-! ## The three stores -/

/-- `sha256` of `canonical.ts`. -/
def sha256Text (createHash : List UInt8 → List UInt8) (text : JsString) : JsString :=
  js "sha256:" ++ encodeStrictBase64Url (createHash (utf8 text))

section Stores

variable {entries : Set ProviderReplayEntry}

theorem inMemoryProviderReplayStore_spendsOnce (h : ∀ entry ∈ entries, entry.Produced) :
    inMemoryProviderReplayStore.SpendsOnce entries := by
  have hkey : ∀ entry ∈ entries, inMemoryProviderReplayStore.key entry = some (entry.join 0x00) :=
    fun entry hentry => if_neg (by simp [(h entry hentry).incomplete_eq])
  refine ProviderReplayStore.spendsOnce_of_keys (fun entry hentry => ⟨_, hkey entry hentry⟩)
    fun entry hentry other hother => ?_
  rw [hkey entry hentry, hkey other hother, Option.some.injEq]
  exact ProviderReplayEntry.join_inj (by decide) (h entry hentry) (h other hother)

theorem redisProviderReplayStore_key (keyPrefix : JsString) {entry : ProviderReplayEntry}
    (h : entry.Produced) : (redisProviderReplayStore keyPrefix).key entry =
      some (redisKey keyPrefix (js "provider") (entry.join 0x3A)) :=
  if_neg (by simp [h.incomplete_eq])

theorem redisProviderReplayStore_spendsOnce (keyPrefix : JsString)
    (h : ∀ entry ∈ entries, entry.Produced) :
    (redisProviderReplayStore keyPrefix).SpendsOnce entries := by
  refine ProviderReplayStore.spendsOnce_of_keys
    (fun entry hentry => ⟨_, redisProviderReplayStore_key keyPrefix (h entry hentry)⟩)
    fun entry hentry other hother => ?_
  rw [redisProviderReplayStore_key keyPrefix (h entry hentry),
    redisProviderReplayStore_key keyPrefix (h other hother), Option.some.injEq,
    (redisKey_injective keyPrefix (js "provider")).eq_iff]
  exact ProviderReplayEntry.join_inj (by decide) (h entry hentry) (h other hother)

theorem utf8_redisKey_inj (keyPrefix kind : JsString) {id other : JsString}
    (hkind : IsText kind) (hid : IsText id) (hother : IsText other) :
    utf8 (redisKey keyPrefix kind id) = utf8 (redisKey keyPrefix kind other) ↔ id = other := by
  refine ⟨fun heq => ?_, fun heq => heq ▸ rfl⟩
  have hkey : ∀ id, redisKey keyPrefix kind id =
      keyPrefix ++ 0x3A :: (kind ++ (js ":" ++ id)) := fun id => by
    simp only [redisKey, List.append_assoc]
    rfl
  have htext : ∀ {id}, IsText id → toWellFormed (kind ++ (js ":" ++ id)) = kind ++ (js ":" ++ id) :=
    fun hid => (hkind.append ((isText_js ":").append hid)).toWellFormed_eq
  rw [utf8_eq_iff, hkey, hkey, toWellFormed_append (by decide) (by decide),
    toWellFormed_append (by decide) (by decide), htext hid, htext hother] at heq
  exact List.append_cancel_left (List.append_cancel_left
    (List.cons.inj (List.append_cancel_left heq)).2)

theorem postgresProviderReplayStore_spendsOnce {createHash : List UInt8 → List UInt8}
    (h : ∀ entry ∈ entries, entry.Produced)
    (hhash : Set.InjOn createHash (Set.image (fun entry => utf8 (entry.join 0x00)) entries)) :
    (postgresProviderReplayStore (sha256Text createHash)).SpendsOnce entries := by
  refine ProviderReplayStore.spendsOnce_of_keys (fun entry _ => ⟨_, rfl⟩)
    fun entry hentry other hother => ?_
  have hpreimage := hhash.eq_iff (Set.mem_image_of_mem _ hentry) (Set.mem_image_of_mem _ hother)
  simp only [postgresProviderReplayStore, sha256Text, Option.some.injEq,
    List.append_cancel_left_eq, encodeStrictBase64Url_injective.eq_iff]
  rw [hpreimage]
  exact ProviderReplayEntry.utf8_join_inj (by decide) (by decide) (h entry hentry)
    (h other hother)

/-- Keys are equal for equal entries only, and the first call for an entry is the one that
spends it, in each of the stores. -/
theorem providerReplay_spends_once (keyPrefix : JsString) (createHash : List UInt8 → List UInt8)
    (h : ∀ entry ∈ entries, entry.Produced)
    (hhash : Set.InjOn createHash (Set.image (fun entry => utf8 (entry.join 0x00)) entries)) :
    inMemoryProviderReplayStore.SpendsOnce entries ∧
    (redisProviderReplayStore keyPrefix).SpendsOnce entries ∧
    (postgresProviderReplayStore (sha256Text createHash)).SpendsOnce entries ∧
    ∀ entry ∈ entries, ∀ other ∈ entries,
      ((redisProviderReplayStore keyPrefix).key entry).map utf8 =
        ((redisProviderReplayStore keyPrefix).key other).map utf8 ↔ entry = other := by
  refine ⟨inMemoryProviderReplayStore_spendsOnce h, redisProviderReplayStore_spendsOnce keyPrefix h,
    postgresProviderReplayStore_spendsOnce h hhash, fun entry hentry other hother => ?_⟩
  have htext := @ProviderReplayEntry.isText_join _ 0x3A (by decide) (h entry hentry)
  have htext' := @ProviderReplayEntry.isText_join _ 0x3A (by decide) (h other hother)
  rw [redisProviderReplayStore_key keyPrefix (h entry hentry),
    redisProviderReplayStore_key keyPrefix (h other hother), Option.map_some, Option.map_some,
    Option.some.injEq, utf8_redisKey_inj keyPrefix _ (isText_js _) htext htext']
  exact ProviderReplayEntry.join_inj (by decide) (h entry hentry) (h other hother)

end Stores

/-! ## Two scopes of one subject -/

namespace TwoVotes

def entry (scopeId : JsString) : ProviderReplayEntry :=
  ⟨js "world", js "proof_of_human", ⟨.action, scopeId⟩,
    js "hmac-sha256:47DEQpj8HBSa-_TImW-5JCeuQeRkm5NMpJWZG3hSuFU"⟩

def entries : Set ProviderReplayEntry := {entry (js "vote"), entry (js "vote:2")}

def createHash (bytes : List UInt8) : List UInt8 :=
  if bytes = utf8 ((entry (js "vote")).join 0x00) then
    [251, 226, 134, 25, 237, 86, 66, 245, 78, 25, 29, 96, 79, 111, 90, 230, 136, 34, 67, 43, 139,
      138, 110, 237, 204, 203, 97, 79, 144, 254, 183, 113]
  else
    [22, 27, 21, 78, 195, 55, 214, 96, 98, 218, 186, 27, 231, 32, 47, 216, 214, 221, 75, 243, 251,
      166, 170, 206, 19, 28, 136, 97, 112, 241, 28, 58]

theorem produced : ∀ entry ∈ entries, entry.Produced := by
  rintro _ (rfl | rfl)
  · exact ⟨by decide, by decide, by decide, by decide, by decide⟩
  · exact ⟨by decide, by decide, by decide, by decide, by decide⟩

theorem createHash_injOn :
    Set.InjOn createHash (Set.image (fun entry => utf8 (entry.join 0x00)) entries) := by
  have hdiffer : createHash (utf8 ((entry (js "vote")).join 0x00)) ≠
      createHash (utf8 ((entry (js "vote:2")).join 0x00)) := by decide +kernel
  rintro _ ⟨_, rfl | rfl, rfl⟩ _ ⟨_, rfl | rfl, rfl⟩ heq
  · rfl
  · exact absurd heq hdiffer
  · exact absurd heq.symm hdiffer
  · rfl

end TwoVotes

theorem providerReplay_spends_once_twoVotes :
    inMemoryProviderReplayStore.SpendsOnce TwoVotes.entries ∧
    (redisProviderReplayStore (js "x424")).SpendsOnce TwoVotes.entries ∧
    (postgresProviderReplayStore (sha256Text TwoVotes.createHash)).SpendsOnce TwoVotes.entries ∧
    ∀ entry ∈ TwoVotes.entries, ∀ other ∈ TwoVotes.entries,
      ((redisProviderReplayStore (js "x424")).key entry).map utf8 =
        ((redisProviderReplayStore (js "x424")).key other).map utf8 ↔ entry = other :=
  providerReplay_spends_once (js "x424") TwoVotes.createHash TwoVotes.produced
    TwoVotes.createHash_injOn

end X424
