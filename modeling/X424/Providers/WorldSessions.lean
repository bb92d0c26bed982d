import X424.Foundation.Machine
import X424.Foundation.Table
import X424.Handoff.Record
import X424.Providers.WorldIdShared

/-!
# World handoff sessions

`createWorldIdHandoffAdapter` of `world-id-client.ts`.  The adapter keeps one
IDKit request for each session.  A start waits for IDKit between its check of
the capacity and the session it stores, and a poll waits between the session it
finds and the one it deletes; other calls come in between.
-/

namespace X424

open Foundation

/-- The IDKit request of a session; `request` is the object that is polled. -/
structure WorldIdProofRequest (ρ : Type) where
  requestId : JsString
  connectorUri : JsString
  request : ρ
  deriving DecidableEq

structure WorldSession (ρ : Type) where
  requestId : JsString
  request : ρ
  expiresAtMs : ℚ
  deriving DecidableEq

/-- A `Map` under the request ids. -/
abbrev WorldSessions (ρ : Type) := Table (WorldSession.requestId (ρ := ρ))

inductive WorldPollType where
  | waitingForConnection
  | awaitingConfirmation
  | confirmed
  | failed
  deriving DecidableEq, Repr

/-- The answer of `pollOnce`. -/
structure WorldPollStatus where
  type : WorldPollType
  result : Option Json
  error : Option JsString

inductive WorldHandoffPoll where
  | pending
  | completed (nativeProof : Json)
  | failed (code : JsString)

/-- The answer of `startHandoff`; the provider session holds the request id. -/
structure StartedWorldHandoff where
  requestId : JsString
  presentation : HumanHandoffPresentation
  expiresAt : JsString
  pollAfterMs : JsDouble
  deriving DecidableEq

/-! ## The adapter -/

section Adapter

variable {ρ : Type}

def WorldSession.alive (nowMs : Instant) (session : WorldSession ρ) : Bool :=
  !decide (session.expiresAtMs ≤ nowMs)

def cleanupExpired (nowMs : Instant) (sessions : WorldSessions ρ) : WorldSessions ρ :=
  sessions.filter (WorldSession.alive nowMs)

/-- `startHandoff` up to the call of `createWorldIdProofRequest`. -/
def admitHandoff (maximum : Nat) (nowMs : Instant) (sessions : WorldSessions ρ) :
    Except JsError Unit × WorldSessions ρ :=
  let sessions := cleanupExpired nowMs sessions
  if maximum ≤ sessions.size then (.error ⟨js "World handoff capacity reached"⟩, sessions)
  else (.ok (), sessions)

/-- The rest of it; the text of the expiry is parsed back to the time it was made of. -/
def storeHandoff (rpExpiresAt : ℚ) (request : WorldIdProofRequest ρ) (nowMs : Instant)
    (sessions : WorldSessions ρ) : Except JsError StartedWorldHandoff × WorldSessions ρ :=
  let expiresAtMs := rpExpiresAt * 1000
  let time := dateTime expiresAtMs
  if IsDate time then
    if time ≤ nowMs then (.error ⟨js "World provider request already expired"⟩, sessions)
    else
      (.ok ⟨request.requestId, ⟨request.connectorUri, none⟩, dateText time, .finite 1000⟩,
        sessions.put ⟨request.requestId, request.request, expiresAtMs⟩)
  else (.error ⟨js "Invalid time value"⟩, sessions)

/-- `providerSession.requestId`, of an object that has a text there. -/
def sessionRequestId (providerSession : Json) : Option JsString :=
  memberText (js "requestId") providerSession

/-- `pollHandoff` up to the call of `pollOnce`: its answer, or the session to ask. -/
def findSession (providerSession : Json) (nowMs : Instant) (sessions : WorldSessions ρ) :
    Except WorldHandoffPoll (WorldSession ρ) × WorldSessions ρ :=
  match sessionRequestId providerSession with
  | none => (.error (.failed (js "INVALID_WORLD_SESSION")), sessions)
  | some requestId =>
      let sessions := cleanupExpired nowMs sessions
      match sessions.find requestId with
      | none => (.error (.failed (js "WORLD_SESSION_LOST")), sessions)
      | some session => (.ok session, sessions)

def answerPoll (requestId : JsString) (status : WorldPollStatus) (sessions : WorldSessions ρ) :
    WorldHandoffPoll × WorldSessions ρ :=
  match status.type, status.result with
  | .confirmed, some nativeProof => (.completed nativeProof, sessions.erase requestId)
  | .failed, _ =>
      (.failed (js "WORLD_" ++ toUpperCase (status.error.getD (js "FAILED"))),
        sessions.erase requestId)
  | _, _ => (.pending, sessions)

def cancelSession (providerSession : Json) (sessions : WorldSessions ρ) : WorldSessions ρ :=
  match sessionRequestId providerSession with
  | none => sessions
  | some requestId => sessions.erase requestId

end Adapter

/-! ## Interleavings -/

inductive WorldRecord (ρ : Type) where
  | refused (nowMs : Instant)
  | requested (nowMs : Instant)
  | opened (session : WorldSession ρ)
  | looked (requestId : JsString) (nowMs : Instant) (found : Option (WorldSession ρ))
  | delivered (session : WorldSession ρ) (nativeProof : Json)
  | ended (requestId : JsString)

inductive WorldEvent (ι ρ : Type) where
  | tick (nowMs : Instant)
  | start (call : ι) (rpExpiresAt : ℚ)
  | created (call : ι) (answer : Except JsError (WorldIdProofRequest ρ))
  | poll (call : ι) (providerSession : Json)
  | polled (call : ι) (answer : Except JsError WorldPollStatus)
  | cancel (providerSession : Json)

structure WorldState (ι ρ : Type) where
  nowMs : Instant
  sessions : WorldSessions ρ
  /-- The starts that wait for IDKit, with the `expires_at` of their material. -/
  starting : List (ι × ℚ)
  polling : ι → Option (WorldSession ρ)
  log : List (WorldRecord ρ)

def WorldState.initial (ι ρ : Type) (nowMs : Instant) : WorldState ι ρ :=
  ⟨nowMs, .empty, [], fun _ => none, []⟩

section Machine

variable {ι ρ : Type} [DecidableEq ι] (maximum : Nat)

namespace WorldState

variable (s : WorldState ι ρ)

def start (call : ι) (rpExpiresAt : ℚ) : WorldState ι ρ :=
  match admitHandoff maximum s.nowMs s.sessions with
  | (.error _, sessions) => { s with sessions := sessions, log := .refused s.nowMs :: s.log }
  | (.ok (), sessions) =>
      { s with
        sessions := sessions
        starting := (call, rpExpiresAt) :: s.starting
        log := .requested s.nowMs :: s.log }

def created (call : ι) (rpExpiresAt : ℚ) (answer : Except JsError (WorldIdProofRequest ρ)) :
    WorldState ι ρ :=
  let s := { s with starting := s.starting.erase (call, rpExpiresAt) }
  match answer with
  | .error _ => s
  | .ok request =>
      match storeHandoff rpExpiresAt request s.nowMs s.sessions with
      | (.error _, sessions) => { s with sessions := sessions }
      | (.ok _, sessions) =>
          { s with
            sessions := sessions
            log := .opened ⟨request.requestId, request.request, rpExpiresAt * 1000⟩ :: s.log }

def poll (call : ι) (providerSession : Json) : WorldState ι ρ :=
  match sessionRequestId providerSession with
  | none => s
  | some requestId =>
      match findSession providerSession s.nowMs s.sessions with
      | (.error _, sessions) =>
          { s with sessions := sessions, log := .looked requestId s.nowMs none :: s.log }
      | (.ok session, sessions) =>
          { s with
            sessions := sessions
            polling := Function.update s.polling call (some session)
            log := .looked requestId s.nowMs (some session) :: s.log }

def polled (call : ι) (session : WorldSession ρ) (answer : Except JsError WorldPollStatus) :
    WorldState ι ρ :=
  let s := { s with polling := Function.update s.polling call none }
  match answer with
  | .error _ => s
  | .ok status =>
      match answerPoll session.requestId status s.sessions with
      | (.pending, sessions) => { s with sessions := sessions }
      | (.completed nativeProof, sessions) =>
          { s with
            sessions := sessions
            log := .delivered session nativeProof :: .ended session.requestId :: s.log }
      | (.failed _, sessions) =>
          { s with sessions := sessions, log := .ended session.requestId :: s.log }

def cancel (providerSession : Json) : WorldState ι ρ :=
  { s with
    sessions := cancelSession providerSession s.sessions
    log := ((sessionRequestId providerSession).map WorldRecord.ended).toList ++ s.log }

end WorldState

/-- The clock does not go back; a call that waits makes no other call. -/
def worldStep (s : WorldState ι ρ) : WorldEvent ι ρ → Option (WorldState ι ρ)
  | .tick nowMs => if s.nowMs ≤ nowMs then some { s with nowMs := nowMs } else none
  | .start call rpExpiresAt =>
      if (s.starting.lookup call).isSome then none else some (s.start maximum call rpExpiresAt)
  | .created call answer =>
      (s.starting.lookup call).map fun rpExpiresAt => s.created call rpExpiresAt answer
  | .poll call providerSession =>
      if (s.polling call).isSome then none else some (s.poll call providerSession)
  | .polled call answer => (s.polling call).map fun session => s.polled call session answer
  | .cancel providerSession => some (s.cancel providerSession)

def worldMachine : Machine (WorldState ι ρ) (WorldEvent ι ρ) := ⟨worldStep maximum⟩

end Machine

/-! ## What the history says -/

section History

variable {ρ : Type}

/-- The session that was opened last under the id, unless it has been ended. -/
def lastSession (requestId : JsString) : List (WorldRecord ρ) → Option (WorldSession ρ)
  | [] => none
  | .opened session :: earlier =>
      if session.requestId = requestId then some session else lastSession requestId earlier
  | .ended other :: earlier => if other = requestId then none else lastSession requestId earlier
  | .refused _ :: earlier => lastSession requestId earlier
  | .requested _ :: earlier => lastSession requestId earlier
  | .looked _ _ _ :: earlier => lastSession requestId earlier
  | .delivered _ _ :: earlier => lastSession requestId earlier

def openedIds : List (WorldRecord ρ) → List JsString
  | [] => []
  | .opened session :: earlier => session.requestId :: openedIds earlier
  | _ :: earlier => openedIds earlier

def liveSessions (nowMs : Instant) (log : List (WorldRecord ρ)) : Finset JsString :=
  (openedIds log).toFinset.filter fun requestId =>
    (lastSession requestId log).any (WorldSession.alive nowMs)

def RecordedAs (maximum : Nat) (record : WorldRecord ρ) (earlier : List (WorldRecord ρ)) : Prop :=
  match record with
  | .refused nowMs => maximum ≤ (liveSessions nowMs earlier).card
  | .requested nowMs => (liveSessions nowMs earlier).card < maximum
  | .opened _ => True
  | .looked requestId nowMs found =>
      found = (lastSession requestId earlier).filter (WorldSession.alive nowMs)
  | .delivered session _ =>
      ∃ nowMs, .looked session.requestId nowMs (some session) ∈ earlier
  | .ended _ => True

def RecordedLog (maximum : Nat) : List (WorldRecord ρ) → Prop
  | [] => True
  | record :: earlier => RecordedAs maximum record earlier ∧ RecordedLog maximum earlier

variable {maximum : Nat} {log : List (WorldRecord ρ)} {requestId : JsString}
  {session : WorldSession ρ} {nowMs later : Instant}

theorem RecordedLog.at {after earlier : List (WorldRecord ρ)} {record : WorldRecord ρ}
    (h : RecordedLog maximum (after ++ record :: earlier)) : RecordedAs maximum record earlier := by
  induction after with
  | nil => exact h.1
  | cons other after ih => exact ih h.2

theorem mem_openedIds (h : lastSession requestId log = some session) :
    requestId ∈ openedIds log := by
  induction log with
  | nil => cases h
  | cons record earlier ih =>
      cases record with
      | opened other =>
          simp only [lastSession] at h
          split_ifs at h with hsame
          · exact hsame ▸ List.mem_cons_self
          · exact List.mem_cons_of_mem _ (ih h)
      | ended other =>
          simp only [lastSession] at h
          split_ifs at h
          exact ih h
      | refused nowMs => exact ih h
      | requested nowMs => exact ih h
      | looked other nowMs found => exact ih h
      | delivered other nativeProof => exact ih h

theorem mem_liveSessions :
    requestId ∈ liveSessions nowMs log ↔
      ((lastSession requestId log).filter (WorldSession.alive nowMs)).isSome := by
  rw [liveSessions, Finset.mem_filter, List.mem_toFinset]
  cases hlast : lastSession requestId log with
  | none => simp
  | some session =>
      have hopened := mem_openedIds hlast
      cases halive : session.alive nowMs <;> simp [halive, hopened, Option.filter]

/-- An id that was ended finds a session again only after one was opened under it. -/
theorem opened_of_lastSession {between earlier : List (WorldRecord ρ)}
    (h : lastSession requestId (between ++ .ended requestId :: earlier) = some session) :
    .opened session ∈ between ∧ session.requestId = requestId := by
  induction between with
  | nil => simp [lastSession] at h
  | cons record between ih =>
      cases record with
      | opened other =>
          simp only [List.cons_append, lastSession] at h
          split_ifs at h with hsame
          · cases h
            exact ⟨List.mem_cons_self, hsame⟩
          · exact ⟨List.mem_cons_of_mem _ (ih h).1, (ih h).2⟩
      | ended other =>
          simp only [List.cons_append, lastSession] at h
          split_ifs at h
          exact ⟨List.mem_cons_of_mem _ (ih h).1, (ih h).2⟩
      | refused nowMs => exact ⟨List.mem_cons_of_mem _ (ih h).1, (ih h).2⟩
      | requested nowMs => exact ⟨List.mem_cons_of_mem _ (ih h).1, (ih h).2⟩
      | looked other nowMs found => exact ⟨List.mem_cons_of_mem _ (ih h).1, (ih h).2⟩
      | delivered other nativeProof => exact ⟨List.mem_cons_of_mem _ (ih h).1, (ih h).2⟩

theorem WorldSession.alive_earlier (hle : nowMs ≤ later) (h : session.alive later = true) :
    session.alive nowMs = true := by
  simp only [WorldSession.alive, Bool.not_eq_true', decide_eq_false_iff_not, not_le] at h ⊢
  exact lt_of_le_of_lt (Int.cast_le.mpr hle) h

theorem filter_alive_alive (hle : nowMs ≤ later) (found : Option (WorldSession ρ)) :
    (found.filter (WorldSession.alive nowMs)).filter (WorldSession.alive later) =
      found.filter (WorldSession.alive later) := by
  cases found with
  | none => rfl
  | some session =>
      cases hlater : session.alive later with
      | false => cases hnow : session.alive nowMs <;> simp [Option.filter, hnow, hlater]
      | true => simp [Option.filter, WorldSession.alive_earlier hle hlater, hlater]

end History

/-! ## The sessions are what the history says -/

section Invariant

variable {ι ρ : Type} {maximum : Nat} {s t : WorldState ι ρ} {sessions : WorldSessions ρ}
  {log : List (WorldRecord ρ)} {nowMs later : Instant} {requestId : JsString}

def Holds (nowMs : Instant) (sessions : WorldSessions ρ) (log : List (WorldRecord ρ)) : Prop :=
  ∀ later, nowMs ≤ later → ∀ requestId,
    (sessions.find requestId).filter (WorldSession.alive later) =
      (lastSession requestId log).filter (WorldSession.alive later)

theorem Holds.at_later (h : Holds nowMs sessions log) (hle : nowMs ≤ later) :
    Holds later sessions log :=
  fun time htime => h time (le_trans hle htime)

theorem Holds.cleanup (h : Holds nowMs sessions log) :
    Holds nowMs (cleanupExpired nowMs sessions) log := by
  intro later hle requestId
  rw [cleanupExpired, Table.find_filter, filter_alive_alive hle, h later hle]

theorem Holds.find_cleanup (h : Holds nowMs sessions log) (requestId : JsString) :
    (cleanupExpired nowMs sessions).find requestId =
      (lastSession requestId log).filter (WorldSession.alive nowMs) := by
  rw [cleanupExpired, Table.find_filter, h nowMs (le_refl nowMs)]

theorem Holds.size_cleanup (h : Holds nowMs sessions log) :
    (cleanupExpired nowMs sessions).size = (liveSessions nowMs log).card := by
  refine Table.size_eq_card fun requestId => ?_
  rw [h.find_cleanup, mem_liveSessions]

theorem Holds.erase (h : Holds nowMs sessions log) (requestId : JsString) :
    Holds nowMs (sessions.erase requestId) (.ended requestId :: log) := by
  intro later hle other
  simp only [lastSession]
  split_ifs with hsame
  · subst hsame
    rw [Table.find_erase_same]
  · rw [Table.find_erase_of_ne _ (Ne.symm hsame), h later hle]

theorem Holds.put (h : Holds nowMs sessions log) (session : WorldSession ρ) :
    Holds nowMs (sessions.put session) (.opened session :: log) := by
  intro later hle other
  simp only [lastSession]
  split_ifs with hsame
  · subst hsame
    rw [Table.find_put_same]
  · rw [Table.find_put_of_ne _ (Ne.symm hsame), h later hle]

structure WorldInvariant (maximum : Nat) (s : WorldState ι ρ) : Prop where
  holds : Holds s.nowMs s.sessions s.log
  recorded : RecordedLog maximum s.log
  found : ∀ call session, s.polling call = some session →
    ∃ nowMs, .looked session.requestId nowMs (some session) ∈ s.log

theorem WorldInvariant.initial (nowMs : Instant) :
    WorldInvariant maximum (WorldState.initial ι ρ nowMs) :=
  ⟨fun _ _ _ => rfl, trivial, fun _ _ h => by cases h⟩

theorem WorldInvariant.start (h : WorldInvariant maximum s) (call : ι) (rpExpiresAt : ℚ) :
    WorldInvariant maximum (s.start maximum call rpExpiresAt) := by
  have hsize := h.holds.size_cleanup
  simp only [WorldState.start, admitHandoff]
  split_ifs with hfull
  · refine ⟨h.holds.cleanup, ⟨?_, h.recorded⟩, fun call session hpolling =>
      (h.found call session hpolling).imp fun _ hmem => List.mem_cons_of_mem _ hmem⟩
    simpa only [RecordedAs, ← hsize] using hfull
  · refine ⟨h.holds.cleanup, ⟨?_, h.recorded⟩, fun call session hpolling =>
      (h.found call session hpolling).imp fun _ hmem => List.mem_cons_of_mem _ hmem⟩
    simpa only [RecordedAs, ← hsize] using Nat.not_le.mp hfull

theorem WorldInvariant.created [DecidableEq ι] (h : WorldInvariant maximum s) (call : ι)
    (rpExpiresAt : ℚ) (answer : Except JsError (WorldIdProofRequest ρ)) :
    WorldInvariant maximum (s.created call rpExpiresAt answer) := by
  cases answer with
  | error error => exact ⟨h.holds, h.recorded, h.found⟩
  | ok request =>
      simp only [WorldState.created, storeHandoff]
      split_ifs with hdate hexpired
      · exact ⟨h.holds, h.recorded, h.found⟩
      rotate_left
      · exact ⟨h.holds, h.recorded, h.found⟩
      · exact ⟨h.holds.put _, ⟨trivial, h.recorded⟩, fun call session hpolling =>
          (h.found call session hpolling).imp fun _ hmem => List.mem_cons_of_mem _ hmem⟩

theorem WorldInvariant.poll [DecidableEq ι] (h : WorldInvariant maximum s) (call : ι)
    (providerSession : Json) : WorldInvariant maximum (s.poll call providerSession) := by
  simp only [WorldState.poll, findSession]
  cases sessionRequestId providerSession with
  | none => exact h
  | some requestId =>
      have hfind := h.holds.find_cleanup requestId
      cases hfound : (cleanupExpired s.nowMs s.sessions).find requestId with
      | none =>
          simp only [hfound]
          rw [hfound] at hfind
          exact ⟨h.holds.cleanup, ⟨hfind, h.recorded⟩, fun call session hpolling =>
            (h.found call session hpolling).imp fun _ hmem => List.mem_cons_of_mem _ hmem⟩
      | some session =>
          simp only [hfound]
          rw [hfound] at hfind
          refine ⟨h.holds.cleanup, ⟨hfind, h.recorded⟩, fun other waiting hpolling => ?_⟩
          have hid : session.requestId = requestId := (Table.find_eq_some.mp hfound).2
          simp only [Function.update_apply] at hpolling
          split_ifs at hpolling
          · cases hpolling
            exact ⟨s.nowMs, hid ▸ List.mem_cons_self⟩
          · exact (h.found other waiting hpolling).imp fun _ hmem => List.mem_cons_of_mem _ hmem

theorem WorldInvariant.polled [DecidableEq ι] (h : WorldInvariant maximum s) {call : ι}
    {session : WorldSession ρ} (hpolling : s.polling call = some session)
    (answer : Except JsError WorldPollStatus) :
    WorldInvariant maximum (s.polled call session answer) := by
  have hfound : ∀ other waiting, Function.update s.polling call none other = some waiting →
      ∃ nowMs, .looked waiting.requestId nowMs (some waiting) ∈ s.log := by
    intro other waiting hother
    rw [Function.update_apply] at hother
    split_ifs at hother
    exact h.found other waiting hother
  cases answer with
  | error error => exact ⟨h.holds, h.recorded, hfound⟩
  | ok status =>
      simp only [WorldState.polled]
      rcases status with ⟨type, result, error⟩
      have hended : WorldInvariant maximum
          { s with
            polling := Function.update s.polling call none
            sessions := s.sessions.erase session.requestId
            log := .ended session.requestId :: s.log } :=
        ⟨h.holds.erase _, ⟨trivial, h.recorded⟩, fun other waiting hother =>
          (hfound other waiting hother).imp fun _ hmem => List.mem_cons_of_mem _ hmem⟩
      cases type with
      | waitingForConnection => exact ⟨h.holds, h.recorded, hfound⟩
      | awaitingConfirmation => exact ⟨h.holds, h.recorded, hfound⟩
      | failed => exact hended
      | confirmed =>
          cases result with
          | none => exact ⟨h.holds, h.recorded, hfound⟩
          | some nativeProof =>
              refine ⟨hended.holds, ⟨?_, hended.recorded⟩, fun other waiting hother =>
                (hended.found other waiting hother).imp fun _ hmem => List.mem_cons_of_mem _ hmem⟩
              exact (h.found call session hpolling).imp fun _ hmem => List.mem_cons_of_mem _ hmem

theorem WorldInvariant.cancel (h : WorldInvariant maximum s) (providerSession : Json) :
    WorldInvariant maximum (s.cancel providerSession) := by
  simp only [WorldState.cancel, cancelSession]
  cases sessionRequestId providerSession with
  | none => exact ⟨h.holds, h.recorded, h.found⟩
  | some requestId =>
      exact ⟨h.holds.erase _, ⟨trivial, h.recorded⟩, fun call session hpolling =>
        (h.found call session hpolling).imp fun _ hmem => List.mem_cons_of_mem _ hmem⟩

theorem WorldInvariant.step [DecidableEq ι] (h : WorldInvariant maximum s)
    {event : WorldEvent ι ρ} (hstep : worldStep maximum s event = some t) :
    WorldInvariant maximum t := by
  cases event with
  | tick nowMs =>
      obtain ⟨hle, ⟨⟩⟩ := Option.ite_none_right_eq_some.mp hstep
      exact ⟨h.holds.at_later hle, h.recorded, h.found⟩
  | start call rpExpiresAt =>
      obtain ⟨-, ⟨⟩⟩ := Option.ite_none_left_eq_some.mp hstep
      exact h.start call rpExpiresAt
  | created call answer =>
      obtain ⟨rpExpiresAt, -, rfl⟩ := Option.map_eq_some_iff.mp hstep
      exact h.created call rpExpiresAt answer
  | poll call providerSession =>
      obtain ⟨-, ⟨⟩⟩ := Option.ite_none_left_eq_some.mp hstep
      exact h.poll call providerSession
  | polled call answer =>
      obtain ⟨session, hpolling, rfl⟩ := Option.map_eq_some_iff.mp hstep
      exact h.polled hpolling answer
  | cancel providerSession =>
      cases hstep
      exact h.cancel providerSession

end Invariant

/-! ## The capacity -/

section Capacity

variable {ι ρ : Type} [DecidableEq ι] {maximum k : Nat} {s t : WorldState ι ρ}

/-- After the step no more than `k` starts wait for IDKit. -/
def StartsAtMost (maximum k : Nat) (s : WorldState ι ρ) (event : WorldEvent ι ρ) : Prop :=
  ∀ t, worldStep maximum s event = some t → t.starting.length ≤ k

def WorldState.claimed (s : WorldState ι ρ) : Nat := s.sessions.size + s.starting.length

omit [DecidableEq ι] in
theorem claimed_start {call : ι} {rpExpiresAt : ℚ}
    (hstarting : (s.start maximum call rpExpiresAt).starting.length ≤ k)
    (h : s.claimed + 1 ≤ maximum + k) :
    (s.start maximum call rpExpiresAt).claimed + 1 ≤ maximum + k := by
  have hclean : (cleanupExpired s.nowMs s.sessions).size ≤ s.sessions.size :=
    Table.size_filter_le _ _
  unfold WorldState.claimed at *
  simp only [WorldState.start, admitHandoff] at hstarting ⊢
  split_ifs at hstarting ⊢ with hfull
  · simp only
    omega
  · simp only [List.length_cons] at hstarting ⊢
    omega

theorem length_erase_starting {call : ι} {rpExpiresAt : ℚ}
    (h : s.starting.lookup call = some rpExpiresAt) :
    (s.starting.erase (call, rpExpiresAt)).length + 1 = s.starting.length := by
  obtain ⟨front, back, hsplit, -⟩ := List.lookup_eq_some_iff.mp h
  have hmem : (call, rpExpiresAt) ∈ s.starting := by
    rw [hsplit]
    exact List.mem_append_right _ List.mem_cons_self
  have hpos := List.length_pos_of_mem hmem
  rw [List.length_erase_of_mem hmem]
  omega

theorem claimed_created {call : ι} {rpExpiresAt : ℚ}
    (hlookup : s.starting.lookup call = some rpExpiresAt)
    (answer : Except JsError (WorldIdProofRequest ρ)) :
    (s.created call rpExpiresAt answer).claimed ≤ s.claimed := by
  have hlength := length_erase_starting hlookup
  unfold WorldState.claimed
  cases answer with
  | error error =>
      simp only [WorldState.created]
      omega
  | ok request =>
      have hput := s.sessions.size_put_le ⟨request.requestId, request.request, rpExpiresAt * 1000⟩
      simp only [WorldState.created, storeHandoff]
      split_ifs with hdate hexpired
      · simp only
        omega
      · simp only
        omega
      · simp only
        omega

theorem claimed_poll (call : ι) (providerSession : Json) :
    (s.poll call providerSession).claimed ≤ s.claimed := by
  have hclean : (cleanupExpired s.nowMs s.sessions).size ≤ s.sessions.size :=
    Table.size_filter_le _ _
  unfold WorldState.claimed
  simp only [WorldState.poll, findSession]
  cases sessionRequestId providerSession with
  | none => exact le_refl _
  | some requestId =>
      cases hfound : (cleanupExpired s.nowMs s.sessions).find requestId with
      | none =>
          simp only [hfound]
          omega
      | some session =>
          simp only [hfound]
          omega

theorem claimed_polled (call : ι) (session : WorldSession ρ)
    (answer : Except JsError WorldPollStatus) :
    (s.polled call session answer).claimed ≤ s.claimed := by
  have herase : (s.sessions.erase session.requestId).size ≤ s.sessions.size :=
    Table.size_filter_le _ _
  unfold WorldState.claimed
  cases answer with
  | error error => exact le_refl _
  | ok status =>
      rcases status with ⟨type, result, error⟩
      cases type with
      | waitingForConnection => exact le_refl _
      | awaitingConfirmation => exact le_refl _
      | failed => exact Nat.add_le_add_right herase _
      | confirmed =>
          cases result with
          | none => exact le_refl _
          | some nativeProof => exact Nat.add_le_add_right herase _

omit [DecidableEq ι] in
theorem claimed_cancel (providerSession : Json) :
    (s.cancel providerSession).claimed ≤ s.claimed := by
  unfold WorldState.claimed
  simp only [WorldState.cancel, cancelSession]
  cases sessionRequestId providerSession with
  | none => exact le_refl _
  | some requestId => exact Nat.add_le_add_right (Table.size_filter_le _ _) _

theorem claimed_step {event : WorldEvent ι ρ} (h : s.claimed + 1 ≤ maximum + k)
    (hguard : StartsAtMost maximum k s event) (hstep : worldStep maximum s event = some t) :
    t.claimed + 1 ≤ maximum + k := by
  have hstarting := hguard t hstep
  cases event with
  | tick nowMs =>
      obtain ⟨-, ⟨⟩⟩ := Option.ite_none_right_eq_some.mp hstep
      exact h
  | start call rpExpiresAt =>
      obtain ⟨-, ⟨⟩⟩ := Option.ite_none_left_eq_some.mp hstep
      exact claimed_start hstarting h
  | created call answer =>
      obtain ⟨rpExpiresAt, hlookup, rfl⟩ := Option.map_eq_some_iff.mp hstep
      exact le_trans (Nat.succ_le_succ (claimed_created hlookup answer)) h
  | poll call providerSession =>
      obtain ⟨-, ⟨⟩⟩ := Option.ite_none_left_eq_some.mp hstep
      exact le_trans (Nat.succ_le_succ (claimed_poll call providerSession)) h
  | polled call answer =>
      obtain ⟨session, -, rfl⟩ := Option.map_eq_some_iff.mp hstep
      exact le_trans (Nat.succ_le_succ (claimed_polled call session answer)) h
  | cancel providerSession =>
      cases hstep
      exact le_trans (Nat.succ_le_succ (claimed_cancel providerSession)) h

end Capacity

/-! ## Runs -/

section Runs

variable {ι ρ : Type} [DecidableEq ι] {maximum : Nat} {s : WorldState ι ρ}

structure WorldSessionsExact (maximum : Nat) (s : WorldState ι ρ) : Prop where
  /-- A poll finds the session opened last under the id, unless that was ended or has expired. -/
  looked : ∀ {after requestId nowMs found earlier},
    s.log = after ++ .looked requestId nowMs found :: earlier →
      found = (lastSession requestId earlier).filter (WorldSession.alive nowMs)
  /-- A start is refused if and only if so many sessions are alive. -/
  refused : ∀ {after nowMs earlier}, s.log = after ++ .refused nowMs :: earlier →
    maximum ≤ (liveSessions nowMs earlier).card
  requested : ∀ {after nowMs earlier}, s.log = after ++ .requested nowMs :: earlier →
    (liveSessions nowMs earlier).card < maximum
  delivered : ∀ {after session nativeProof earlier},
    s.log = after ++ .delivered session nativeProof :: earlier →
      ∃ nowMs, .looked session.requestId nowMs (some session) ∈ earlier
  /-- Once a session has ended, no later poll finds one under its id that was not opened since. -/
  final : ∀ {after requestId nowMs session between earlier},
    s.log = after ++ .looked requestId nowMs (some session) ::
      (between ++ .ended requestId :: earlier) → .opened session ∈ between

theorem worldSessions_exact {startedAt : Instant} {events : List (WorldEvent ι ρ)}
    (hrun : (worldMachine maximum).run (WorldState.initial ι ρ startedAt) events = some s) :
    WorldSessionsExact maximum s := by
  have hfinal : WorldInvariant maximum s := (worldMachine maximum).invariant_run
    (fun _ _ _ h hstep => h.step hstep) (WorldInvariant.initial startedAt) hrun
  have hrecorded : ∀ {after record earlier}, s.log = after ++ record :: earlier →
      RecordedAs maximum record earlier := fun hlog => (hlog ▸ hfinal.recorded).at
  refine ⟨fun hlog => hrecorded hlog, fun hlog => hrecorded hlog, fun hlog => hrecorded hlog,
    fun hlog => hrecorded hlog, fun hlog => ?_⟩
  have hfound := (Option.filter_eq_some_iff.mp (hrecorded hlog).symm).1
  exact (opened_of_lastSession hfound).1

end Runs

def ceremony : List (WorldEvent ℕ Unit) :=
  let providerSession := Json.object [(js "requestId", .string (js "r"))]
  [.start 0 1, .created 0 (.ok ⟨js "r", js "https://world.org/verify", ()⟩),
    .poll 1 providerSession, .polled 1 (.ok ⟨.awaitingConfirmation, none, none⟩), .tick 500,
    .poll 2 providerSession, .polled 2 (.ok ⟨.confirmed, some (.object []), none⟩),
    .poll 3 providerSession]

theorem worldSessions_exact_ceremony :
    ∃ s, (worldMachine 1).run (WorldState.initial ℕ Unit 0) ceremony = some s ∧
      WorldSessionsExact 1 s := by
  obtain ⟨s, hrun⟩ := Option.isSome_iff_exists.mp
    (by decide +kernel :
      ((worldMachine 1).run (WorldState.initial ℕ Unit 0) ceremony).isSome = true)
  exact ⟨s, hrun, worldSessions_exact hrun⟩

/-! ## How far the maximum is exceeded -/

section Overrun

variable {ρ : Type} [Inhabited ρ] {maximum k n w : Nat} {s : WorldState ℕ ρ}

/-- `n` sessions are alive at time 0, and `w` starts wait. -/
structure Opened (n w : Nat) (s : WorldState ℕ ρ) : Prop where
  nowMs : s.nowMs = 0
  starting : s.starting = (List.range w).reverse.map fun call => (call, (1 : ℚ))
  size : s.sessions.size = n
  rows : ∀ session ∈ s.sessions.rows, session.requestId.length < n ∧ session.expiresAtMs = 1000

def requestOfLength (n : Nat) : WorldIdProofRequest ρ := ⟨List.replicate n 0x61, [], default⟩

omit [Inhabited ρ] in
theorem Opened.cleanup (h : Opened n w s) : cleanupExpired s.nowMs s.sessions = s.sessions := by
  refine Table.filter_eq_self fun session hsession => ?_
  rw [WorldSession.alive, (h.rows session hsession).2, h.nowMs]
  decide

omit [Inhabited ρ] in
theorem Opened.start (h : Opened n w s) (hroom : n < maximum) :
    ∃ t, (worldMachine maximum).step s (.start w 1) = some t ∧ Opened n (w + 1) t := by
  have hnew : s.starting.lookup w = none := by
    rw [h.starting, List.lookup_eq_none_iff]
    simp only [List.mem_map, List.mem_reverse, List.mem_range]
    rintro _ ⟨call, hcall, rfl⟩
    simpa using Nat.ne_of_gt hcall
  have hfull : ¬ maximum ≤ s.sessions.size := by
    rw [h.size]
    exact Nat.not_le.mpr hroom
  refine ⟨_, by simp only [worldMachine, worldStep, hnew]; rfl, ?_⟩
  simp only [WorldState.start, admitHandoff, h.cleanup, if_neg hfull]
  refine ⟨h.nowMs, ?_, h.size, h.rows⟩
  rw [h.starting, List.range_succ, List.reverse_append, List.map_append]
  rfl

theorem Opened.created (h : Opened n (w + 1) s) :
    ∃ t, (worldMachine maximum).step s (.created w (.ok (requestOfLength n))) = some t ∧
      Opened (n + 1) w t := by
  have hstarting : s.starting =
      (w, 1) :: (List.range w).reverse.map fun call => (call, (1 : ℚ)) := by
    rw [h.starting, List.range_succ, List.reverse_append, List.map_append]
    rfl
  have htime : dateTime (1 * 1000) = 1000 := by simp [dateTime]
  have hdate : IsDate (dateTime (1 * 1000)) := by
    rw [htime]
    decide
  have hahead : ¬ dateTime (1 * 1000) ≤ s.nowMs := by
    rw [htime, h.nowMs]
    decide
  have hnew : ∀ session ∈ s.sessions.rows, session.requestId ≠ List.replicate n 0x61 := by
    intro session hsession heq
    have hlength := (h.rows session hsession).1
    rw [heq, List.length_replicate] at hlength
    exact Nat.lt_irrefl n hlength
  have herase : (s.sessions.erase (List.replicate n 0x61)).rows = s.sessions.rows :=
    List.filter_eq_self.mpr fun session hsession => decide_eq_true (hnew session hsession)
  refine ⟨_, by simp only [worldMachine, worldStep, hstarting, List.lookup_cons_self]; rfl, ?_⟩
  simp only [WorldState.created, storeHandoff, requestOfLength, if_pos hdate, if_neg hahead]
  refine ⟨h.nowMs, ?_, ?_, fun session hsession => ?_⟩
  · rw [hstarting, List.erase_cons_head]
  · simp only [Table.size, Table.put, herase, List.length_append, List.length_singleton]
    exact congrArg Nat.succ h.size
  · rcases Table.mem_put.mp hsession with ⟨hold, -⟩ | rfl
    · obtain ⟨hlength, hexpires⟩ := h.rows session hold
      exact ⟨Nat.lt_succ_of_lt hlength, hexpires⟩
    · refine ⟨?_, by norm_num⟩
      rw [List.length_replicate]
      exact Nat.lt_succ_self n

omit [Inhabited ρ] in
theorem Opened.guard {event : WorldEvent ℕ ρ} {t : WorldState ℕ ρ} (h : Opened n w t)
    (hstep : (worldMachine maximum).step s event = some t) (hw : w ≤ k) :
    StartsAtMost maximum k s event := by
  intro u hu
  cases hstep.symm.trans hu
  rw [h.starting, List.length_map, List.length_reverse, List.length_range]
  exact hw

theorem Opened.reaches_created (h : Opened n w s) (hw : w ≤ k) :
    ∃ t, (worldMachine maximum).Reaches (StartsAtMost maximum k) s t ∧ t.sessions.size = n + w := by
  induction w generalizing n s with
  | zero => exact ⟨s, Machine.Reaches.refl s, h.size⟩
  | succ w ih =>
      obtain ⟨t, hstep, hopened⟩ : ∃ t, (worldMachine maximum).step s
          (.created w (.ok (requestOfLength n))) = some t ∧ Opened (n + 1) w t := h.created
      obtain ⟨u, hreaches, hsize⟩ := ih hopened (by omega)
      exact ⟨u, hreaches.head (hopened.guard hstep (by omega)) hstep, by omega⟩

/-- With room for one more session, `k` starts get past the check of the capacity. -/
theorem Opened.reaches_started (h : Opened n w s) (hroom : n < maximum) (hw : w ≤ k) :
    ∃ t, (worldMachine maximum).Reaches (StartsAtMost maximum k) s t ∧ t.sessions.size = n + k := by
  induction hleft : k - w generalizing w s with
  | zero =>
      obtain rfl : w = k := by omega
      exact h.reaches_created (le_refl w)
  | succ left ih =>
      obtain ⟨t, hstep, hopened⟩ := h.start hroom
      obtain ⟨u, hreaches, hsize⟩ := ih hopened (by omega) (by omega)
      exact ⟨u, hreaches.head (hopened.guard hstep (by omega)) hstep, hsize⟩

theorem Opened.reaches_overrun (h : Opened n 0 s) (hroom : n < maximum) (hk : 1 ≤ k) :
    ∃ t, (worldMachine maximum).Reaches (StartsAtMost maximum k) s t ∧
      t.sessions.size + 1 = maximum + k := by
  induction hleft : maximum - n - 1 generalizing n s with
  | zero =>
      obtain ⟨t, hreaches, hsize⟩ := h.reaches_started hroom (Nat.zero_le k)
      exact ⟨t, hreaches, by omega⟩
  | succ left ih =>
      obtain ⟨t, hstart, hstarted⟩ := h.start hroom
      obtain ⟨u, hcreate, hopened⟩ : ∃ u, (worldMachine maximum).step t
          (.created 0 (.ok (requestOfLength n))) = some u ∧ Opened (n + 1) 0 u :=
        hstarted.created
      obtain ⟨v, hreaches, hsize⟩ := ih hopened (by omega) (by omega)
      exact ⟨v, (hreaches.head (hopened.guard hcreate (Nat.zero_le k)) hcreate).head
        (hstarted.guard hstart hk) hstart, hsize⟩

/-- When up to `k` starts wait for IDKit at once, the adapter holds up to `k - 1` sessions more
than its maximum, and no more than that. -/
theorem worldSessions_capacity (hmaximum : 1 ≤ maximum) (hk : 1 ≤ k) :
    IsGreatest {size | ∃ s, (worldMachine maximum).Reaches (StartsAtMost maximum k)
      (WorldState.initial ℕ ρ 0) s ∧ s.sessions.size = size} (maximum + k - 1) := by
  constructor
  · have hopened : Opened 0 0 (WorldState.initial ℕ ρ 0) :=
      ⟨rfl, rfl, rfl, List.forall_mem_nil _⟩
    obtain ⟨t, hreaches, hsize⟩ := hopened.reaches_overrun hmaximum hk
    exact ⟨t, hreaches, by omega⟩
  · rintro _ ⟨s, hreaches, rfl⟩
    have hclaimed : s.claimed + 1 ≤ maximum + k := hreaches.invariant
      (I := fun s => s.claimed + 1 ≤ maximum + k)
      (fun _ _ _ h hguard hstep => claimed_step h hguard hstep)
      (Nat.add_le_add (Nat.zero_le _) hk)
    unfold WorldState.claimed at hclaimed
    omega

end Overrun

/-- Two starts at once give an adapter for one session two of them. -/
theorem worldSessions_capacity_two :
    IsGreatest {size | ∃ s, (worldMachine 1).Reaches (StartsAtMost 1 2)
      (WorldState.initial ℕ Unit 0) s ∧ s.sessions.size = size} 2 :=
  worldSessions_capacity (by decide) (by decide)

end X424
