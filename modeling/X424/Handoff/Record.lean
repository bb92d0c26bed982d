import Mathlib.Algebra.Order.Ring.Rat
import X424.Foundation.Versions
import X424.Types

/-!
# Handoff records

`StoredHumanHandoff` with the writes that the handoff service makes to it, and
what a token holder sees of it.
-/

namespace X424

open Foundation

/-! ## Numbers -/

/-- A number that is not infinite; `none` is `NaN`. -/
abbrev JsNumber := Option Rat

def mathMin (bound : Rat) (n : JsNumber) : JsNumber := n.map (min bound)

def mathMax (bound : Rat) (n : JsNumber) : JsNumber := n.map (max bound)

inductive JsDouble where
  | nan
  | infinity (negative : Bool)
  | finite (value : Rat)
  deriving DecidableEq, Repr

/-- `Math.max(low, Math.min(high, n))`. -/
def JsDouble.clamp (low high : Rat) : JsDouble → JsNumber
  | nan => none
  | infinity negative => mathMax low (some (if negative then low else high))
  | finite value => mathMax low (mathMin high (some value))

/-- The time of `new Date(ms)`, which drops the fraction. -/
def dateTime (ms : Rat) : Instant := ms.num.tdiv ms.den

/-! ## Records -/

inductive HandoffStatus where
  | pending
  | polling
  | completed
  | failed
  | expired
  | cancelled
  deriving DecidableEq, Repr

/-- `handoffTerminal` of `redis.ts`, `postgresHandoffTerminal` of `postgres/store.ts`. -/
def HandoffStatus.terminal : HandoffStatus → Bool
  | pending | polling => false
  | completed | failed | expired | cancelled => true

/-- A presentation of kind `uri`. -/
structure HumanHandoffPresentation where
  uri : JsString
  userCode : Option JsString
  deriving DecidableEq, Repr

structure StoredHumanHandoff where
  handoffId : JsString
  dependencyId : JsString
  providerId : JsString
  methodId : JsString
  accessTokenDigest : JsString
  status : HandoffStatus
  /-- A lease that lets another verifier take over after the holder is lost. -/
  pollClaimExpiresAt : Option Instant
  presentation : HumanHandoffPresentation
  protectedState : JsString
  protectedCompletion : Option JsString
  failureCode : Option JsString
  pollAfterMs : JsNumber
  expiresAt : Instant
  version : Nat
  deriving DecidableEq, Repr

def parseStoredHumanHandoff (document : StoredHumanHandoff) :
    Except JsError StoredHumanHandoff :=
  match document.pollAfterMs with
  | none => .error ⟨js "Invalid durable handoff state"⟩
  | some pollAfterMs =>
      if pollAfterMs.den ≠ 1 ∨ pollAfterMs < 500 ∨ 10000 < pollAfterMs ∨ document.version < 1 then
        .error ⟨js "Invalid durable handoff state"⟩
      else .ok document

namespace StoredHumanHandoff

def canonicalJson (record : StoredHumanHandoff) : Except JsError StoredHumanHandoff :=
  match record.pollAfterMs with
  | none => .error ⟨js "Non-finite JSON number"⟩
  | some _ => .ok record

/-! ## Writes -/

variable (record : StoredHumanHandoff)

def advance (status : HandoffStatus) : StoredHumanHandoff :=
  { record with status := status, version := record.version + 1 }

def withoutPollClaim : StoredHumanHandoff :=
  { record with pollClaimExpiresAt := none }

def expire : StoredHumanHandoff := record.advance .expired

def cancel : StoredHumanHandoff := record.advance .cancelled

def toPending : StoredHumanHandoff := record.withoutPollClaim.advance .pending

/-- The lease that a claim made now gets; a `NaN` gives an invalid date. -/
def claimExpiry (now : Instant) : Option Instant :=
  (mathMax 10000 (record.pollAfterMs.map (· * 3))).map fun claimLifetimeMs =>
    dateTime (min (record.expiresAt : Rat) (now + claimLifetimeMs))

def claim (now : Instant) : Except JsError StoredHumanHandoff :=
  match record.claimExpiry now with
  | none => .error ⟨js "Invalid time value"⟩
  | some lease => .ok { record.advance .polling with pollClaimExpiresAt := some lease }

def complete (protectedCompletion : JsString) : StoredHumanHandoff :=
  { record.advance .completed with protectedCompletion := some protectedCompletion }

/-- `code.replace(/[^A-Z0-9_]/gu, "_")`; a surrogate pair is one character. -/
def replaceCodeUnits : JsString → JsString
  | [] => []
  | [u] => [replaceUnit u]
  | u :: v :: rest =>
      if isLeadSurrogate u && isTrailSurrogate v then 0x5F :: replaceCodeUnits rest
      else replaceUnit u :: replaceCodeUnits (v :: rest)
where
  replaceUnit (u : UInt16) : UInt16 :=
    if (0x41 ≤ u && u ≤ 0x5A) || (0x30 ≤ u && u ≤ 0x39) then u else 0x5F

def fail (code : JsString) : StoredHumanHandoff :=
  { record.advance .failed with failureCode := some ((replaceCodeUnits code).take 100) }

/-! ## Identity -/

def identity : StoredHumanHandoff :=
  { record with
    status := .pending
    pollClaimExpiresAt := none
    protectedCompletion := none
    failureCode := none
    version := 0 }

structure Succeeds (next : StoredHumanHandoff) : Prop where
  version : next.version = record.version + 1
  identity : next.identity = record.identity

variable {record} {next : StoredHumanHandoff}

theorem advance_succeeds (status : HandoffStatus) : record.Succeeds (record.advance status) :=
  ⟨rfl, rfl⟩

theorem toPending_succeeds : record.Succeeds record.toPending := ⟨rfl, rfl⟩

theorem complete_succeeds (protectedCompletion : JsString) :
    record.Succeeds (record.complete protectedCompletion) := ⟨rfl, rfl⟩

theorem fail_succeeds (code : JsString) : record.Succeeds (record.fail code) := ⟨rfl, rfl⟩

theorem claim_eq_ok {now : Instant} :
    record.claim now = .ok next ↔ ∃ lease, record.claimExpiry now = some lease ∧
      { record.advance .polling with pollClaimExpiresAt := some lease } = next := by
  unfold claim
  cases record.claimExpiry now with
  | none => simp
  | some lease => simp

theorem claim_succeeds {now : Instant} (h : record.claim now = .ok next) :
    record.Succeeds next := by
  obtain ⟨lease, _, rfl⟩ := claim_eq_ok.mp h
  exact ⟨rfl, rfl⟩

private theorem field_eq {β : Type} (field : StoredHumanHandoff → β)
    (hfield : ∀ record, field record.identity = field record)
    (h : next.identity = record.identity) : field next = field record := by
  rw [← hfield next, h, hfield]

theorem handoffId_eq (h : next.identity = record.identity) : next.handoffId = record.handoffId :=
  field_eq StoredHumanHandoff.handoffId (fun _ => rfl) h

theorem dependencyId_eq (h : next.identity = record.identity) :
    next.dependencyId = record.dependencyId :=
  field_eq StoredHumanHandoff.dependencyId (fun _ => rfl) h

theorem methodId_eq (h : next.identity = record.identity) : next.methodId = record.methodId :=
  field_eq StoredHumanHandoff.methodId (fun _ => rfl) h

theorem accessTokenDigest_eq (h : next.identity = record.identity) :
    next.accessTokenDigest = record.accessTokenDigest :=
  field_eq StoredHumanHandoff.accessTokenDigest (fun _ => rfl) h

theorem pollAfterMs_eq (h : next.identity = record.identity) :
    next.pollAfterMs = record.pollAfterMs :=
  field_eq StoredHumanHandoff.pollAfterMs (fun _ => rfl) h

theorem expiresAt_eq (h : next.identity = record.identity) :
    next.expiresAt = record.expiresAt :=
  field_eq StoredHumanHandoff.expiresAt (fun _ => rfl) h

end StoredHumanHandoff

def handoffKind : RecordKind StoredHumanHandoff JsString StoredHumanHandoff where
  key := StoredHumanHandoff.handoffId
  version := StoredHumanHandoff.version
  final record := record.status.terminal
  identity := StoredHumanHandoff.identity

/-! ## Reading durable state -/

theorem parseStoredHumanHandoff_eq {document record : StoredHumanHandoff}
    (h : parseStoredHumanHandoff document = .ok record) : record = document := by
  unfold parseStoredHumanHandoff at h
  cases hpoll : document.pollAfterMs with
  | none => simp [hpoll] at h
  | some pollAfterMs =>
      simp only [hpoll] at h
      split_ifs at h
      exact (Except.ok.inj h).symm

theorem parseStoredHumanHandoff_later {record other : StoredHumanHandoff}
    (h : parseStoredHumanHandoff record = .ok record) (hidentity : other.identity = record.identity)
    (hversion : record.version ≤ other.version) : parseStoredHumanHandoff other = .ok other := by
  unfold parseStoredHumanHandoff at h ⊢
  rw [StoredHumanHandoff.pollAfterMs_eq hidentity]
  cases hpoll : record.pollAfterMs with
  | none => simp [hpoll] at h
  | some pollAfterMs =>
      simp only [hpoll] at h ⊢
      split_ifs at h with hbad
      refine if_neg fun hbad' => hbad ?_
      obtain hden | hlow | hhigh | hlast := hbad'
      · exact Or.inl hden
      · exact Or.inr (Or.inl hlow)
      · exact Or.inr (Or.inr (Or.inl hhigh))
      · omega

theorem canonicalJson_eq {record document : StoredHumanHandoff}
    (h : record.canonicalJson = .ok document) : document = record := by
  unfold StoredHumanHandoff.canonicalJson at h
  cases hpoll : record.pollAfterMs with
  | none => simp [hpoll] at h
  | some pollAfterMs =>
      simp only [hpoll, Except.ok.injEq] at h
      exact h.symm

theorem canonicalJson_of_isSome {record : StoredHumanHandoff} (h : record.pollAfterMs.isSome) :
    record.canonicalJson = .ok record := by
  obtain ⟨pollAfterMs, hpoll⟩ := Option.isSome_iff_exists.mp h
  simp only [StoredHumanHandoff.canonicalJson, hpoll]

theorem canonicalJson_of_parse {record : StoredHumanHandoff}
    (h : parseStoredHumanHandoff record = .ok record) : record.canonicalJson = .ok record := by
  unfold parseStoredHumanHandoff at h
  unfold StoredHumanHandoff.canonicalJson
  cases hpoll : record.pollAfterMs with
  | none => simp [hpoll] at h
  | some pollAfterMs => rfl

/-! ## Views -/

inductive HumanHandoffView where
  | pending (handoffId : JsString) (pollAfterMs : JsNumber) (expiresAt : Instant)
  | completed (handoffId humanProof : JsString) (expiresAt : Instant)
  | failed (handoffId code : JsString) (expiresAt : Instant)
  | expired (handoffId : JsString) (expiresAt : Instant)
  | cancelled (handoffId : JsString) (expiresAt : Instant)
  deriving DecidableEq, Repr

def StoredHumanHandoff.pendingView (record : StoredHumanHandoff) : HumanHandoffView :=
  .pending record.handoffId record.pollAfterMs record.expiresAt

/-- The `unprotect` of the state protector, applied to a completion: the token
that the opened value holds as `humanProof`, if it holds one. -/
abbrev OpensCompletion := JsString → Except JsError (Option JsString)

/-- `#terminalView`. -/
def StoredHumanHandoff.terminalView (unprotect : OpensCompletion) (record : StoredHumanHandoff) :
    Except JsError (Option HumanHandoffView) :=
  match record.status with
  | .completed =>
      match unprotect (record.protectedCompletion.getD []) with
      | .error error => .error error
      | .ok none => .error ⟨js "Invalid protected handoff completion"⟩
      | .ok (some humanProof) =>
          .ok (some (.completed record.handoffId humanProof record.expiresAt))
  | .failed =>
      .ok (some (.failed record.handoffId (record.failureCode.getD (js "HANDOFF_FAILED"))
        record.expiresAt))
  | .expired => .ok (some (.expired record.handoffId record.expiresAt))
  | .cancelled => .ok (some (.cancelled record.handoffId record.expiresAt))
  | .pending | .polling => .ok none

end X424
