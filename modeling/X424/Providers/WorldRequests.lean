import X424.Auth.Resources
import X424.Foundation.Machine
import X424.Ops.CircuitBreaker
import X424.Providers.WorldBinding

/-!
# Requests to World

`#verifyWithWorld` of `providers/world-id.ts`: the verifications of any number
of adapters that share a circuit breaker.  A request is in flight between two
steps of the run, so its outcome may come after those of later requests.
-/

namespace X424

open Foundation

/-! ## The request -/

def upperHexDigit (d : Nat) : UInt16 :=
  if d < 10 then UInt16.ofNat (0x30 + d) else UInt16.ofNat (0x37 + d)

/-- A letter, a digit, or one of `-_.!~*'()`. -/
def isUriUnreserved (b : UInt8) : Bool :=
  (0x61 ≤ b && b ≤ 0x7A) || (0x41 ≤ b && b ≤ 0x5A) || (0x30 ≤ b && b ≤ 0x39) || b == 0x2D ||
    b == 0x5F || b == 0x2E || b == 0x21 || b == 0x7E || b == 0x2A || b == 0x27 || b == 0x28 ||
    b == 0x29

def percentEncode (b : UInt8) : JsString :=
  if isUriUnreserved b then [UInt16.ofNat b.toNat]
  else [0x25, upperHexDigit (b.toNat / 16), upperHexDigit (b.toNat % 16)]

def encodeURIComponent (text : JsString) : Except JsError JsString :=
  if toWellFormed text = text then .ok ((utf8 text).flatMap percentEncode)
  else .error ⟨js "URI malformed"⟩

def isSegmentUnit (u : UInt16) : Bool :=
  u == 0x25 || (u < 0x80 && isUriUnreserved (UInt8.ofNat u.toNat))

theorem isSegmentUnit_percentEncode (b : UInt8) :
    ∀ u ∈ percentEncode b, isSegmentUnit u = true := by
  have hall : ∀ n < 256, (percentEncode (UInt8.ofNat n)).all isSegmentUnit = true := by
    decide +kernel
  have h := hall b.toNat b.toNat_lt
  rw [UInt8.ofNat_toNat] at h
  exact List.all_eq_true.mp h

theorem isSegmentUnit_encodeURIComponent {text encoded : JsString}
    (h : encodeURIComponent text = .ok encoded) : ∀ u ∈ encoded, isSegmentUnit u = true := by
  rw [encodeURIComponent] at h
  split_ifs at h
  cases h
  intro u hu
  obtain ⟨b, -, hb⟩ := List.mem_flatMap.mp hu
  exact isSegmentUnit_percentEncode b u hb

def assertProviderEgressAllowed (urls : UrlParser) (url : JsString) (allowlist : List JsString) :
    Except JsError Unit :=
  match urls.parse url with
  | none => .error ⟨js "Invalid provider egress URL"⟩
  | some parsed =>
      if parsed.protocol ≠ js "https:" then .error ⟨js "Provider egress must use https"⟩
      else if !allowlist.contains parsed.origin then
        .error ⟨js "Provider origin is not allowlisted"⟩
      else .ok ()

def worldOrigin : JsString := js "https://developer.world.org"

structure WorldRequest where
  url : JsString
  method : JsString
  headers : List (JsString × JsString)
  body : JsString
  deriving DecidableEq

def worldRequest (numbers : JsNumbers) (rpId : JsString) (nativeProof : Json) :
    Except JsError WorldRequest := do
  let segment ← encodeURIComponent rpId
  return {
    url := worldOrigin ++ js "/api/v4/verify/" ++ segment
    method := js "POST"
    headers := [(js "content-type", js "application/json")]
    body := stringify numbers nativeProof }

/-- What becomes of a request: `fetch` or `response.json()` throws, or there is a body. -/
inductive WorldResponse where
  | rejected (error : JsError)
  | answered (ok : Bool) (status : JsString) (body : Json)

/-- The end of the `try`, and what the breaker is told. -/
def WorldResponse.body : WorldResponse → Except JsError Json
  | rejected error => .error error
  | answered ok status body =>
      if !ok then .error ⟨js "World verification failed (" ++ status ++ js ")"⟩ else .ok body

/-! ## Verifications in two parts -/

structure WorldVerification where
  options : WorldIdAdapterOptions
  constructed : WorldIdAdapter.new options = .ok options
  allowedEgressOrigins : Option (List JsString)
  requirement : RequirementDocument
  acceptedMethod : HumanMethodRequirement
  proof : HumanProofSubmission
  nativeProof : Json

structure WorldCandidate where
  providerRequest : WorldIdProviderRequest
  descriptor : HumanMethodDescriptor
  candidate : NativeProofCandidate

namespace WorldVerification

variable (surroundings : WorldIdSurroundings) (call : WorldVerification)

def check : Except JsError WorldCandidate := do
  let providerRequest ← providerRequestFromRequirement surroundings.numbers call.requirement
    call.proof.methodId
  let descriptor ← descriptorForNativeProof call.nativeProof
  if !WorldIdAdapter.labelsProof call.options providerRequest descriptor call.acceptedMethod
      call.proof then
    .error ⟨js "Requirement does not match the configured World profile"⟩
  else do
    let candidate ← assertNativeProof surroundings.library call.nativeProof providerRequest
      call.requirement.binding
    let bound ← surroundings.applicationBinding call.nativeProof call.requirement.binding
    if !bound then .error ⟨js "World proof failed the application binding policy"⟩
    else return ⟨providerRequest, descriptor, candidate⟩

def accept (checked : WorldCandidate) (response : Json) : Except JsError ProviderVerifiedHuman := do
  let nullifier ← acceptedRemoteResult response checked.candidate checked.providerRequest
  return WorldIdAdapter.verifiedHuman call.options surroundings call.nativeProof response
    checked.descriptor checked.candidate nullifier

/-- `verify` is the two parts with the answer of World between them. -/
theorem verify_eq : WorldIdAdapter.verify call.options surroundings call.requirement
    call.acceptedMethod call.proof call.nativeProof =
      (do
        let checked ← call.check surroundings
        let response ← surroundings.verifyRemote call.nativeProof
        call.accept surroundings checked response) := by
  unfold WorldIdAdapter.verify check accept
  cases hrequest : providerRequestFromRequirement surroundings.numbers call.requirement
      call.proof.methodId with
  | error => rfl
  | ok providerRequest =>
      cases hdescriptor : descriptorForNativeProof call.nativeProof with
      | error => rfl
      | ok descriptor =>
          dsimp only [bind, Except.bind]
          split_ifs
          · rfl
          · cases assertNativeProof surroundings.library call.nativeProof providerRequest
              call.requirement.binding with
            | error => rfl
            | ok candidate =>
                cases surroundings.applicationBinding call.nativeProof call.requirement.binding with
                | error => rfl
                | ok bound =>
                    cases bound with
                    | false => rfl
                    | true => rfl

end WorldVerification

/-! ## Runs -/

structure WorldFlight where
  id : Nat
  call : WorldVerification
  checked : WorldCandidate

inductive WorldRequestEvent where
  | verify (id : Nat) (call : WorldVerification) (now : Instant)
  | respond (id : Nat) (response : WorldResponse) (now : Instant)

inductive WorldRequestNote where
  | rejected (id : Nat) (now : Instant) (error : JsError)
  | refused (id : Nat) (now : Instant) (error : JsError)
  /-- The breaker lets the call pass, but there is no URL for it. -/
  | unsent (id : Nat) (now : Instant) (error : JsError)
  | sent (flight : WorldFlight) (now : Instant) (request : WorldRequest)
  | settled (flight : WorldFlight) (now : Instant) (response : WorldResponse)
      (result : Except JsError ProviderVerifiedHuman)

namespace WorldRequestNote

def id : WorldRequestNote → Nat
  | rejected id .. | refused id .. | unsent id .. => id
  | sent flight .. | settled flight .. => flight.id

def now : WorldRequestNote → Instant
  | rejected _ now _ | refused _ now _ | unsent _ now _ | sent _ now _ | settled _ now .. => now

def isSettled : WorldRequestNote → Bool
  | settled .. => true
  | _ => false

def isSent : WorldRequestNote → Bool
  | sent .. => true
  | _ => false

def isRefused : WorldRequestNote → Bool
  | refused .. => true
  | _ => false

def asksBreaker : WorldRequestNote → Bool
  | rejected .. | settled .. => false
  | refused .. | unsent .. | sent .. => true

def breakerNotes : WorldRequestNote → List BreakerNote
  | rejected .. => []
  | refused _ now _ => [.refused now]
  | unsent _ now _ => [.failed now, .passed now]
  | sent _ now _ => [.passed now]
  | settled _ now response _ =>
      match response.body with
      | .error _ => [.failed now]
      | .ok _ => [.succeeded now]

end WorldRequestNote

structure WorldRequestState where
  breaker : CircuitBreaker
  pending : List WorldFlight
  log : List WorldRequestNote

namespace WorldRequestState

def initial : WorldRequestState := ⟨.new, [], []⟩

def breakerNotes (s : WorldRequestState) : List BreakerNote :=
  s.log.flatMap WorldRequestNote.breakerNotes

end WorldRequestState

structure WorldEgress where
  options : CircuitBreakerOptions
  urls : UrlParser
  surroundings : WorldIdSurroundings

namespace WorldEgress

variable (egress : WorldEgress)

def prepare (call : WorldVerification) : Except JsError WorldCandidate := do
  let checked ← call.check egress.surroundings
  assertProviderEgressAllowed egress.urls worldOrigin
    (call.allowedEgressOrigins.getD [worldOrigin])
  return checked

/-- `#verifyWithWorld` until `fetch`. -/
def start (id : Nat) (call : WorldVerification) (now : Instant) (s : WorldRequestState) :
    WorldRequestState :=
  match egress.prepare call with
  | .error error => { s with log := .rejected id now error :: s.log }
  | .ok checked =>
      match s.breaker.assertClosed egress.options now with
      | .error error => { s with log := .refused id now error :: s.log }
      | .ok breaker =>
          match worldRequest egress.surroundings.numbers call.options.rpId call.nativeProof with
          | .error error => {
              s with
              breaker := breaker.recordFailure egress.options now
              log := .unsent id now error :: s.log }
          | .ok request =>
              let flight := ⟨id, call, checked⟩
              ⟨breaker, flight :: s.pending, .sent flight now request :: s.log⟩

/-- The rest of `verify` when the outcome of the request is known. -/
def settle (flight : WorldFlight) (response : WorldResponse) (now : Instant)
    (s : WorldRequestState) : WorldRequestState where
  breaker :=
    match response.body with
    | .error _ => s.breaker.recordFailure egress.options now
    | .ok _ => s.breaker.recordSuccess
  pending := s.pending.filter fun other => decide (other.id ≠ flight.id)
  log := .settled flight now response (do
    let body ← response.body
    flight.call.accept egress.surroundings flight.checked body) :: s.log

def step (s : WorldRequestState) : WorldRequestEvent → Option WorldRequestState
  | .verify id call now =>
      if s.log.head?.all (fun note => decide (note.now ≤ now)) ∧ ∀ note ∈ s.log, note.id ≠ id then
        some (egress.start id call now s)
      else none
  | .respond id response now =>
      if s.log.head?.all (fun note => decide (note.now ≤ now)) then
        (s.pending.find? fun flight => decide (flight.id = id)).map fun flight =>
          egress.settle flight response now s
      else none

def machine : Machine WorldRequestState WorldRequestEvent := ⟨egress.step⟩

end WorldEgress

/-! ## What a step does -/

section Steps

open CircuitBreaker

variable {egress : WorldEgress} {s s' : WorldRequestState} {event : WorldRequestEvent}

def Noted (egress : WorldEgress) (earlier : List WorldRequestNote) : WorldRequestNote → Prop
  | .rejected .. => True
  | .refused _ now error =>
      Open egress.options now (recentFailures egress.options
          (earlier.flatMap WorldRequestNote.breakerNotes)) ∧
        error = ⟨js "Provider circuit open"⟩
  | .unsent _ now _ =>
      ¬ Open egress.options now (recentFailures egress.options
        (earlier.flatMap WorldRequestNote.breakerNotes))
  | .sent flight now request =>
      ¬ Open egress.options now (recentFailures egress.options
          (earlier.flatMap WorldRequestNote.breakerNotes)) ∧
        egress.prepare flight.call = .ok flight.checked ∧
        worldRequest egress.surroundings.numbers flight.call.options.rpId
          flight.call.nativeProof = .ok request
  | .settled flight _ response result =>
      (∃ now request, WorldRequestNote.sent flight now request ∈ earlier) ∧
        (∀ note ∈ earlier, note.isSettled = true → note.id ≠ flight.id) ∧
        result = do
          let body ← response.body
          flight.call.accept egress.surroundings flight.checked body

structure RequestsInvariant (egress : WorldEgress) (s : WorldRequestState) : Prop where
  breaker : s.breaker = replay egress.options s.breakerNotes
  history : History egress.options s.breakerNotes
  inFlight : inFlight s.breakerNotes = s.pending.length
  noted : EachAfter (Noted egress) s.log
  inOrder : s.log.Pairwise fun later earlier => earlier.now ≤ later.now
  distinct : (s.pending.map WorldFlight.id).Nodup
  pending : ∀ flight ∈ s.pending, (∃ now request, .sent flight now request ∈ s.log) ∧
    ∀ note ∈ s.log, note.isSettled = true → note.id ≠ flight.id

theorem RequestsInvariant.initial : RequestsInvariant egress .initial :=
  ⟨rfl, trivial, rfl, trivial, List.Pairwise.nil, List.nodup_nil, List.forall_mem_nil _⟩

theorem WorldRequestNote.now_eq {note : WorldRequestNote} {seen : BreakerNote}
    (h : seen ∈ note.breakerNotes) : seen.now = note.now := by
  cases note with
  | rejected => cases h
  | refused | sent =>
      cases List.mem_singleton.mp h
      rfl
  | unsent =>
      rcases List.mem_pair.mp h with rfl | rfl
      · rfl
      · rfl
  | settled flight now response result =>
      rw [WorldRequestNote.breakerNotes] at h
      split at h
      · cases List.mem_singleton.mp h
        rfl
      · cases List.mem_singleton.mp h
        rfl

theorem breakerNotes_le {log : List WorldRequestNote} {now : Instant}
    (h : ∀ note ∈ log, note.now ≤ now) :
    ∀ seen ∈ log.flatMap WorldRequestNote.breakerNotes, seen.now ≤ now := by
  intro seen hseen
  obtain ⟨note, hnote, hseen⟩ := List.mem_flatMap.mp hseen
  rw [WorldRequestNote.now_eq hseen]
  exact h note hnote

theorem now_le_of_head {log : List WorldRequestNote} {now : Instant}
    (horder : log.Pairwise fun later earlier => earlier.now ≤ later.now)
    (h : log.head?.all (fun note => decide (note.now ≤ now)) = true) :
    ∀ note ∈ log, note.now ≤ now := by
  cases log with
  | nil => exact List.forall_mem_nil _
  | cons note earlier =>
      have hnow : note.now ≤ now := by simpa using h
      refine List.forall_mem_cons.mpr ⟨hnow, fun old hold => ?_⟩
      exact le_trans ((List.pairwise_cons.mp horder).1 old hold) hnow

/-- What `start` notes, in the four ways that it can end. -/
theorem start_cases (h : RequestsInvariant egress s) (id : Nat) (call : WorldVerification)
    (now : Instant) :
    (∃ error, egress.start id call now s = { s with log := .rejected id now error :: s.log }) ∨
    (Open egress.options now (recentFailures egress.options s.breakerNotes) ∧
      egress.start id call now s =
        { s with log := .refused id now ⟨js "Provider circuit open"⟩ :: s.log }) ∨
    (¬ Open egress.options now (recentFailures egress.options s.breakerNotes) ∧
      ∃ breaker, s.breaker.assertClosed egress.options now = .ok breaker ∧
        ((∃ error, egress.start id call now s =
            { s with
              breaker := breaker.recordFailure egress.options now
              log := .unsent id now error :: s.log }) ∨
          ∃ checked request, egress.prepare call = .ok checked ∧
            worldRequest egress.surroundings.numbers call.options.rpId call.nativeProof =
              .ok request ∧
            egress.start id call now s =
              ⟨breaker, ⟨id, call, checked⟩ :: s.pending,
                .sent ⟨id, call, checked⟩ now request :: s.log⟩)) := by
  unfold WorldEgress.start
  cases hadmitted : egress.prepare call with
  | error error => exact .inl ⟨error, rfl⟩
  | ok checked =>
      refine .inr ?_
      by_cases hopen : Open egress.options now (recentFailures egress.options s.breakerNotes)
      · refine .inl ⟨hopen, ?_⟩
        rw [h.breaker, replay_eq h.history, assertClosed_of_open hopen]
      · obtain ⟨breaker, hclosed⟩ := (assertClosed_eq h.history).mpr hopen
        rw [← h.breaker] at hclosed
        refine .inr ⟨hopen, breaker, hclosed, ?_⟩
        rw [hclosed]
        cases hrequest : worldRequest egress.surroundings.numbers call.options.rpId
            call.nativeProof with
        | error error => exact .inl ⟨error, rfl⟩
        | ok request => exact .inr ⟨checked, request, rfl, rfl, rfl⟩

theorem RequestsInvariant.start (h : RequestsInvariant egress s) {id : Nat}
    {call : WorldVerification} {now : Instant} (hclock : ∀ note ∈ s.log, note.now ≤ now)
    (hfresh : ∀ note ∈ s.log, note.id ≠ id) :
    RequestsInvariant egress (egress.start id call now s) := by
  have hseen : ∀ seen ∈ s.breakerNotes, seen.now ≤ now := breakerNotes_le hclock
  have hkept : ∀ note : WorldRequestNote, note.isSettled = false → ∀ flight ∈ s.pending,
      (∃ now request, WorldRequestNote.sent flight now request ∈ note :: s.log) ∧
        ∀ old ∈ note :: s.log, old.isSettled = true → old.id ≠ flight.id := by
    intro note hnote flight hflight
    obtain ⟨⟨sentAt, request, hsent⟩, hsettled⟩ := h.pending flight hflight
    refine ⟨⟨sentAt, request, List.mem_cons_of_mem _ hsent⟩,
      List.forall_mem_cons.mpr ⟨?_, hsettled⟩⟩
    intro hother
    rw [hnote] at hother
    cases hother
  have horder : ∀ note : WorldRequestNote, note.now = now →
      (note :: s.log).Pairwise fun later earlier => earlier.now ≤ later.now := by
    rintro note rfl
    exact List.pairwise_cons.mpr ⟨hclock, h.inOrder⟩
  obtain ⟨error, hs⟩ | ⟨hopen, hs⟩ | ⟨hopen, breaker, hclosed, hstart⟩ := start_cases h id call now
  · rw [hs]
    exact ⟨h.breaker, h.history, h.inFlight, ⟨trivial, h.noted⟩, horder _ rfl, h.distinct,
      hkept _ rfl⟩
  · rw [hs]
    have hrefused : ∃ error,
        (replay egress.options s.breakerNotes).assertClosed egress.options now =
          .error error := by
      rw [replay_eq h.history]
      exact ⟨_, assertClosed_of_open hopen⟩
    exact ⟨h.breaker, ⟨⟨hseen, hrefused⟩, h.history⟩, h.inFlight, ⟨⟨hopen, rfl⟩, h.noted⟩,
      horder _ rfl, h.distinct, hkept _ rfl⟩
  · rw [h.breaker] at hclosed
    have hpassed : replay egress.options (.passed now :: s.breakerNotes) = breaker := by
      rw [replay, hclosed]
    have hhistory : History egress.options (.passed now :: s.breakerNotes) :=
      ⟨⟨hseen, breaker, hclosed⟩, h.history⟩
    obtain ⟨error, hs⟩ | ⟨checked, request, hadmitted, hrequest, hs⟩ := hstart
    · rw [hs]
      refine ⟨?_, ⟨⟨?_, Nat.succ_pos _⟩, hhistory⟩, h.inFlight, ⟨hopen, h.noted⟩, horder _ rfl,
        h.distinct, hkept _ rfl⟩
      · exact congrArg (recordFailure egress.options now) hpassed.symm
      · exact List.forall_mem_cons.mpr ⟨le_refl _, hseen⟩
    · rw [hs]
      refine ⟨hpassed.symm, hhistory, congrArg (· + 1) h.inFlight,
        ⟨⟨hopen, hadmitted, hrequest⟩, h.noted⟩, horder _ rfl, ?_, ?_⟩
      · refine List.nodup_cons.mpr ⟨fun hmem => ?_, h.distinct⟩
        obtain ⟨flight, hflight, hid⟩ := List.mem_map.mp hmem
        obtain ⟨⟨sentAt, sentRequest, hsent⟩, -⟩ := h.pending flight hflight
        exact hfresh _ hsent hid
      · refine List.forall_mem_cons.mpr ⟨⟨⟨now, request, List.mem_cons_self⟩, ?_⟩, hkept _ rfl⟩
        exact List.forall_mem_cons.mpr ⟨fun hother => (by cases hother),
          fun note hnote _ => hfresh note hnote⟩

theorem length_filter_flights {pending : List WorldFlight} {flight : WorldFlight}
    (hdistinct : (pending.map WorldFlight.id).Nodup) (hflight : flight ∈ pending) :
    (pending.filter fun other => decide (other.id ≠ flight.id)).length + 1 = pending.length := by
  induction pending with
  | nil => cases hflight
  | cons first rest ih =>
      obtain ⟨hfirst, hrest⟩ := List.nodup_cons.mp hdistinct
      rcases List.mem_cons.mp hflight with rfl | hmem
      · have hall : ∀ other ∈ rest, decide (other.id ≠ flight.id) = true := by
          intro other hother
          refine decide_eq_true fun heq => hfirst ?_
          rw [← heq]
          exact List.mem_map_of_mem hother
        rw [List.filter_cons_of_neg (by simp), List.filter_eq_self.mpr hall, List.length_cons]
      · have hne : first.id ≠ flight.id := fun heq => hfirst (heq ▸ List.mem_map_of_mem hmem)
        rw [List.filter_cons_of_pos (by simpa using hne), List.length_cons, ih hrest hmem,
          List.length_cons]

theorem RequestsInvariant.settle (h : RequestsInvariant egress s) {flight : WorldFlight}
    {response : WorldResponse} {now : Instant} (hclock : ∀ note ∈ s.log, note.now ≤ now)
    (hflight : flight ∈ s.pending) :
    RequestsInvariant egress (egress.settle flight response now s) := by
  have hseen : ∀ seen ∈ s.breakerNotes, seen.now ≤ now := breakerNotes_le hclock
  have hcount := length_filter_flights h.distinct hflight
  have hpositive : 0 < CircuitBreaker.inFlight s.breakerNotes := by
    rw [h.inFlight]
    exact List.length_pos_of_mem hflight
  obtain ⟨hsent, hsettled⟩ := h.pending flight hflight
  have hnotes : ∃ note : BreakerNote, note.now = now ∧ Allows egress.options s.breakerNotes note ∧
      (egress.settle flight response now s).breakerNotes = note :: s.breakerNotes ∧
      (egress.settle flight response now s).breaker =
        replay egress.options (note :: s.breakerNotes) ∧
      CircuitBreaker.inFlight (note :: s.breakerNotes) =
        CircuitBreaker.inFlight s.breakerNotes - 1 := by
    cases hbody : response.body with
    | error error =>
        refine ⟨.failed now, rfl, hpositive, ?_, ?_, rfl⟩
        · simp [WorldEgress.settle, WorldRequestState.breakerNotes,
            WorldRequestNote.breakerNotes, hbody]
        · simp [WorldEgress.settle, hbody, replay, ← h.breaker]
    | ok body =>
        refine ⟨.succeeded now, rfl, hpositive, ?_, ?_, rfl⟩
        · simp [WorldEgress.settle, WorldRequestState.breakerNotes,
            WorldRequestNote.breakerNotes, hbody]
        · simp [WorldEgress.settle, hbody, replay, ← h.breaker]
  obtain ⟨note, rfl, hallows, hnotes, hbreaker, hflights⟩ := hnotes
  refine ⟨?_, ?_, ?_, ⟨⟨hsent, hsettled, rfl⟩, h.noted⟩,
    List.pairwise_cons.mpr ⟨hclock, h.inOrder⟩, ?_, ?_⟩
  · rw [hnotes, hbreaker]
  · rw [hnotes]
    exact ⟨⟨hseen, hallows⟩, h.history⟩
  · rw [hnotes, hflights, h.inFlight, ← hcount, Nat.add_sub_cancel]
    rfl
  · exact h.distinct.sublist ((List.filter_sublist).map _)
  · intro other hother
    obtain ⟨hmem, hne⟩ := List.mem_filter.mp hother
    obtain ⟨⟨sentAt, request, hlogged⟩, hopen⟩ := h.pending other hmem
    refine ⟨⟨sentAt, request, List.mem_cons_of_mem _ hlogged⟩, List.forall_mem_cons.mpr ⟨?_, hopen⟩⟩
    exact fun _ heq => of_decide_eq_true hne heq.symm

theorem RequestsInvariant.step (h : RequestsInvariant egress s)
    (hstep : egress.step s event = some s') : RequestsInvariant egress s' := by
  cases event with
  | verify id call now =>
      rw [WorldEgress.step, Option.ite_none_right_eq_some] at hstep
      obtain ⟨⟨hclock, hfresh⟩, ⟨⟩⟩ := hstep
      exact h.start (now_le_of_head h.inOrder hclock) hfresh
  | respond id response now =>
      rw [WorldEgress.step, Option.ite_none_right_eq_some, Option.map_eq_some_iff] at hstep
      obtain ⟨hclock, flight, hfound, rfl⟩ := hstep
      exact h.settle (now_le_of_head h.inOrder hclock) (List.mem_of_find?_eq_some hfound)

end Steps

/-! ## Every run -/

/-- What `new URL` makes of the origin of World. -/
def ReadsWorldOrigin (urls : UrlParser) : Prop :=
  ∃ parsed, urls.parse worldOrigin = some parsed ∧ parsed.origin = worldOrigin

section Runs

open CircuitBreaker

variable (egress : WorldEgress)

structure SentToWorld (flight : WorldFlight) (request : WorldRequest) : Prop where
  checked : flight.call.check egress.surroundings = .ok flight.checked
  allowed : worldOrigin ∈ flight.call.allowedEgressOrigins.getD [worldOrigin]
  /-- The last segment is the encoded id of the relying party, and not `.` or `..`. -/
  url : ∃ rest, encodeURIComponent flight.call.options.rpId = .ok (js "rp_" ++ rest) ∧
    request.url = js "https://developer.world.org/api/v4/verify/" ++ (js "rp_" ++ rest) ∧
    ∀ u ∈ rest, isSegmentUnit u = true
  method : request.method = js "POST"
  body : request.body = stringify egress.surroundings.numbers flight.call.nativeProof

/-- The adapters of a run, whatever the order in which World answers. -/
structure WorldRequestsExact (log : List WorldRequestNote) : Prop where
  sent : ∀ {flight now request}, .sent flight now request ∈ log → SentToWorld egress flight request
  /-- A verification ends once, as `verify` does when World answers so. -/
  settled : ∀ {later flight now response result earlier},
    log = later ++ .settled flight now response result :: earlier →
    (∃ sentAt request, .sent flight sentAt request ∈ earlier) ∧
      (∀ note ∈ earlier, note.isSettled = true → note.id ≠ flight.id) ∧
      result = WorldIdAdapter.verify flight.call.options
        { egress.surroundings with verifyRemote := fun _ => response.body }
        flight.call.requirement flight.call.acceptedMethod flight.call.proof flight.call.nativeProof
  /-- A call that asks the breaker is refused when and only when the circuit is open. -/
  refused : ∀ {later note earlier}, log = later ++ note :: earlier → note.asksBreaker = true →
    (note.isRefused = true ↔ Open egress.options note.now (recentFailures egress.options
      (earlier.flatMap WorldRequestNote.breakerNotes)))
  /-- It is refused when enough calls failed in less than a cool-down and none has succeeded. -/
  opened : ∀ {later note earlier d}, log = later ++ note :: earlier → note.asksBreaker = true →
    d ≤ egress.options.coolDownMs →
    CircuitBreaker.Quiet d note.now (earlier.flatMap WorldRequestNote.breakerNotes) →
    egress.options.limit ≤
      countFailed d note.now (earlier.flatMap WorldRequestNote.breakerNotes) →
    note.isRefused = true
  recovered : ∀ {later note earlier}, log = later ++ note :: earlier → note.asksBreaker = true →
    countFailed egress.options.coolDownMs note.now
      (earlier.flatMap WorldRequestNote.breakerNotes) = 0 →
    note.isRefused = false

variable {egress} {s : WorldRequestState} {events : List WorldRequestEvent}

theorem RequestsInvariant.reached (hrun : egress.machine.run .initial events = some s) :
    RequestsInvariant egress s :=
  egress.machine.invariant_run (fun _ _ _ h hstep => h.step hstep) .initial hrun

theorem egress_allowed {urls : UrlParser} (horigin : ReadsWorldOrigin urls)
    {allowlist : List JsString}
    (h : assertProviderEgressAllowed urls worldOrigin allowlist = .ok ()) :
    worldOrigin ∈ allowlist := by
  obtain ⟨parsed, hparsed, hsame⟩ := horigin
  rw [assertProviderEgressAllowed, hparsed] at h
  dsimp only at h
  split_ifs at h with hprotocol hlisted
  rw [hsame] at hlisted
  simpa using hlisted

theorem encodeURIComponent_rpId {options : WorldIdAdapterOptions} {segment : JsString}
    (hconstructed : WorldIdAdapter.new options = .ok options)
    (h : encodeURIComponent options.rpId = .ok segment) : ∃ rest, segment = js "rp_" ++ rest := by
  unfold WorldIdAdapter.new at hconstructed
  split_ifs at hconstructed with hinvalid
  have hstart : (js "rp_").isPrefixOf options.rpId = true := by
    by_contra hother
    exact hinvalid (by simp [hother])
  obtain ⟨rest, hrest⟩ := List.isPrefixOf_iff_prefix.mp hstart
  rw [encodeURIComponent] at h
  split_ifs at h
  cases h
  rw [← hrest, utf8_append (isText_js _), List.flatMap_append]
  exact ⟨_, rfl⟩

theorem sentToWorld (horigin : ReadsWorldOrigin egress.urls) {flight : WorldFlight}
    {request : WorldRequest} (hadmitted : egress.prepare flight.call = .ok flight.checked)
    (hrequest : worldRequest egress.surroundings.numbers flight.call.options.rpId
      flight.call.nativeProof = .ok request) : SentToWorld egress flight request := by
  obtain ⟨checked, hcheck, hadmitted⟩ := bind_eq_ok.mp hadmitted
  obtain ⟨⟨⟩, hallowed, hchecked⟩ := bind_eq_ok.mp hadmitted
  obtain ⟨segment, hsegment, hrequest⟩ := bind_eq_ok.mp hrequest
  cases hrequest
  cases hchecked
  obtain ⟨rest, rfl⟩ := encodeURIComponent_rpId flight.call.constructed hsegment
  have hunits := isSegmentUnit_encodeURIComponent hsegment
  exact ⟨hcheck, egress_allowed horigin hallowed,
    ⟨rest, hsegment, rfl, fun u hu => hunits u (List.mem_append_right _ hu)⟩, rfl, rfl⟩

theorem RequestsInvariant.earlier (h : RequestsInvariant egress s)
    {later earlier : List WorldRequestNote} {note : WorldRequestNote}
    (hlog : s.log = later ++ note :: earlier) :
    History egress.options (earlier.flatMap WorldRequestNote.breakerNotes) ∧
      ∀ seen ∈ earlier.flatMap WorldRequestNote.breakerNotes, seen.now ≤ note.now := by
  have hhistory := h.history
  have horder := h.inOrder
  rw [WorldRequestState.breakerNotes, hlog, List.flatMap_append, List.flatMap_cons] at hhistory
  rw [hlog] at horder
  exact ⟨hhistory.of_append.of_append,
    breakerNotes_le (List.pairwise_cons.mp (List.pairwise_append.mp horder).2.1).1⟩

theorem isRefused_iff {note : WorldRequestNote} {earlier : List WorldRequestNote}
    (h : Noted egress earlier note) (hasks : note.asksBreaker = true) :
    note.isRefused = true ↔ Open egress.options note.now (recentFailures egress.options
      (earlier.flatMap WorldRequestNote.breakerNotes)) := by
  cases note with
  | rejected | settled => cases hasks
  | refused => exact iff_of_true rfl h.1
  | unsent => exact iff_of_false Bool.false_ne_true h
  | sent => exact iff_of_false Bool.false_ne_true h.1

theorem countFailed_pos_of_open {notes : List BreakerNote} {now : Instant}
    (hle : ∀ seen ∈ notes, seen.now ≤ now)
    (h : Open egress.options now (recentFailures egress.options notes)) :
    0 < countFailed egress.options.coolDownMs now notes := by
  obtain ⟨-, last, hlast, hcool⟩ := h
  have hfailed := failed_of_mem_recentFailures (List.mem_of_mem_head? hlast)
  have hlast : last ≤ now := hle _ hfailed
  refine List.countP_pos_iff.mpr ⟨.failed last, hfailed, ?_⟩
  rw [BreakerNote.isFailed, Bool.true_and, within, Bool.and_eq_true]
  exact ⟨decide_eq_true hlast, decide_eq_true hcool⟩

/-- What has been sent was checked, so the rest of `verify` is all that is left of it. -/
theorem RequestsInvariant.settled (h : RequestsInvariant egress s)
    {later earlier : List WorldRequestNote} {flight : WorldFlight} {now : Instant}
    {response : WorldResponse} {result : Except JsError ProviderVerifiedHuman}
    (hlog : s.log = later ++ .settled flight now response result :: earlier) :
    (∃ sentAt request, .sent flight sentAt request ∈ earlier) ∧
      (∀ note ∈ earlier, note.isSettled = true → note.id ≠ flight.id) ∧
      result = WorldIdAdapter.verify flight.call.options
        { egress.surroundings with verifyRemote := fun _ => response.body }
        flight.call.requirement flight.call.acceptedMethod flight.call.proof
        flight.call.nativeProof := by
  have hnoted := h.noted
  rw [hlog] at hnoted
  obtain ⟨⟨sentAt, request, hsent⟩, hsettled, rfl⟩ := hnoted.at
  have hmem : WorldRequestNote.sent flight sentAt request ∈ s.log := by
    rw [hlog]
    exact List.mem_append_right _ (List.mem_cons_of_mem _ hsent)
  refine ⟨⟨sentAt, request, hsent⟩, hsettled, ?_⟩
  obtain ⟨-, -, -, -, hadmitted, -⟩ := h.noted.of_mem hmem
  obtain ⟨checked, hcheck, hadmitted⟩ := bind_eq_ok.mp hadmitted
  obtain ⟨-, -, hchecked⟩ := bind_eq_ok.mp hadmitted
  cases hchecked
  rw [WorldVerification.verify_eq]
  change _ = (flight.call.check egress.surroundings >>= _)
  rw [hcheck]
  rfl

/-- The verifications of a run in which World answers in any order. -/
theorem worldRequests_exact (horigin : ReadsWorldOrigin egress.urls)
    (hrun : egress.machine.run .initial events = some s) : WorldRequestsExact egress s.log := by
  have h := RequestsInvariant.reached hrun
  refine ⟨fun hsent => ?_, h.settled, fun hlog hasks => ?_, fun hlog hasks hd hquiet hmany => ?_,
    fun hlog hasks hnone => ?_⟩
  · obtain ⟨later, earlier, -, -, hadmitted, hrequest⟩ := h.noted.of_mem hsent
    exact sentToWorld horigin hadmitted hrequest
  · exact isRefused_iff (hlog ▸ h.noted).at hasks
  · obtain ⟨hhistory, hle⟩ := h.earlier hlog
    refine (isRefused_iff (hlog ▸ h.noted).at hasks).mpr (open_of_countP hd (le_refl _) ?_ ?_)
    · exact fun _ hlast => recentFailures_le hhistory hlast
    · rwa [← countFailed_eq hhistory hle hd hquiet]
  · refine Bool.eq_false_of_not_eq_true fun hrefused => ?_
    have hopen := (isRefused_iff (hlog ▸ h.noted).at hasks).mp hrefused
    exact absurd hnone (countFailed_pos_of_open (h.earlier hlog).2 hopen).ne'

end Runs

namespace FailingWorld

theorem origin_printable : ∀ u ∈ js "https://developer.world.org/", isPrintable u = true :=
  List.all_eq_true.mp (by decide)

def urls : UrlParser where
  parse text :=
    if text = worldOrigin then
      some { href := js "https://developer.world.org/", origin := worldOrigin,
             protocol := js "https:", username := [], password := [], pathname := js "/",
             search := [], hash := [] }
    else none
  referrer _ := none
  href_printable h := by
    split_ifs at h
    cases h
    exact origin_printable
  pathname_https h _ := by
    split_ifs at h
    cases h
    rfl

def egress : WorldEgress := ⟨⟨2, 1000⟩, urls, TwoResponses.surroundings [true]⟩

def call : WorldVerification where
  options := TwoResponses.options
  constructed := by rfl
  allowedEgressOrigins := none
  requirement := TwoResponses.requirement
  acceptedMethod := createWorldIdMethodRequirement none
  proof := TwoResponses.submission
  nativeProof := TwoResponses.nativeProof [TwoResponses.callerSignal]

def events : List WorldRequestEvent :=
  [.verify 0 call 0, .verify 1 call 1, .respond 1 (.rejected ⟨js "fetch failed"⟩) 2,
    .respond 0 (.answered false (js "503") .null) 3, .verify 2 call 4]

end FailingWorld

theorem worldRequests_exact_failing : ∃ s,
    FailingWorld.egress.machine.run .initial FailingWorld.events = some s ∧
      WorldRequestsExact FailingWorld.egress s.log := by
  have hsome : (FailingWorld.egress.machine.run .initial FailingWorld.events).isSome = true := by
    decide +kernel
  obtain ⟨s, hrun⟩ := Option.isSome_iff_exists.mp hsome
  exact ⟨s, hrun, worldRequests_exact ⟨_, rfl, rfl⟩ hrun⟩

/-! ## A burst of requests -/

section Burst

open CircuitBreaker

variable (egress : WorldEgress) (k : Nat)

/-- After the step at most `k` requests are in flight. -/
def FlightsAtMost (s : WorldRequestState) (event : WorldRequestEvent) : Prop :=
  ∀ s', egress.step s event = some s' → s'.pending.length ≤ k

/-- The requests sent less than a cool-down before `t`. -/
def worldRequestsSent (t : Instant) (log : List WorldRequestNote) : Nat :=
  log.countP fun note => note.isSent && within egress.options.coolDownMs t note.now

variable {egress k} {s s' : WorldRequestState} {event : WorldRequestEvent} {t : Instant}

theorem worldRequestsSent_cons {note : WorldRequestNote} {log : List WorldRequestNote} :
    worldRequestsSent egress t (note :: log) = worldRequestsSent egress t log +
      if note.isSent && within egress.options.coolDownMs t note.now then 1 else 0 :=
  List.countP_cons ..

theorem worldRequestsSent_le (log : List WorldRequestNote) : worldRequestsSent egress t log ≤
    countPassed egress.options.coolDownMs t (log.flatMap WorldRequestNote.breakerNotes) := by
  induction log with
  | nil => exact Nat.zero_le _
  | cons note log ih =>
      have hmore : countPassed egress.options.coolDownMs t
          ((note :: log).flatMap WorldRequestNote.breakerNotes) =
          countPassed egress.options.coolDownMs t note.breakerNotes +
            countPassed egress.options.coolDownMs t
              (log.flatMap WorldRequestNote.breakerNotes) := by
        rw [List.flatMap_cons, countPassed, List.countP_append]
        rfl
      rw [worldRequestsSent_cons, hmore]
      cases note with
      | sent flight now request =>
          have hone : countPassed egress.options.coolDownMs t [.passed now] =
              if within egress.options.coolDownMs t now then 1 else 0 := by
            rw [countPassed_cons]
            exact Nat.zero_add _
          rw [WorldRequestNote.breakerNotes, hone]
          change _ + (if within egress.options.coolDownMs t now then 1 else 0) ≤ _
          omega
      | _ => exact ih.trans (Nat.le_add_left _ _)

/-- Fewer than `k` requests were in flight when another one was sent. -/
abbrev SentAtMost (k : Nat) (log : List WorldRequestNote) : Prop :=
  EachAfter (fun earlier note => note.isSent = true →
    inFlight (earlier.flatMap WorldRequestNote.breakerNotes) < k) log

theorem SentAtMost.step (h : RequestsInvariant egress s) (hk : SentAtMost k s.log)
    (hguard : FlightsAtMost egress k s event) (hstep : egress.step s event = some s') :
    SentAtMost k s'.log := by
  have hfew := hguard s' hstep
  cases event with
  | verify id call now =>
      rw [WorldEgress.step, Option.ite_none_right_eq_some] at hstep
      obtain ⟨-, ⟨⟩⟩ := hstep
      obtain ⟨error, hs⟩ | ⟨-, hs⟩ | ⟨-, breaker, -, ⟨error, hs⟩ | ⟨checked, request, -, -, hs⟩⟩ :=
        start_cases h id call now
      · rw [hs]
        exact ⟨fun hsent => (by cases hsent), hk⟩
      · rw [hs]
        exact ⟨fun hsent => (by cases hsent), hk⟩
      · rw [hs]
        exact ⟨fun hsent => (by cases hsent), hk⟩
      · rw [hs] at hfew ⊢
        exact ⟨fun _ => lt_of_eq_of_lt h.inFlight (Nat.lt_of_succ_le hfew), hk⟩
  | respond id response now =>
      rw [WorldEgress.step, Option.ite_none_right_eq_some, Option.map_eq_some_iff] at hstep
      obtain ⟨-, flight, -, rfl⟩ := hstep
      exact ⟨fun hsent => (by cases hsent), hk⟩

theorem worldRequestsSent_lt (h : RequestsInvariant egress s) (hk : SentAtMost k s.log)
    (hquiet : CircuitBreaker.Quiet egress.options.coolDownMs t s.breakerNotes)
    {later log : List WorldRequestNote} (hlog : s.log = later ++ log) :
    worldRequestsSent egress t log < egress.options.limit + k := by
  induction log generalizing later with
  | nil => exact Nat.lt_of_lt_of_le limit_pos (Nat.le_add_right _ _)
  | cons note earlier ih =>
      have hrest := @ih (later ++ [note]) (by rw [hlog, List.append_assoc, List.singleton_append])
      rw [worldRequestsSent_cons]
      split_ifs with hsent
      · rw [Bool.and_eq_true] at hsent
        obtain ⟨hhistory, horder⟩ := h.earlier hlog
        have hquiet' : CircuitBreaker.Quiet egress.options.coolDownMs t
            (earlier.flatMap WorldRequestNote.breakerNotes) := by
          intro seen hseen
          refine hquiet seen ?_
          rw [WorldRequestState.breakerNotes, hlog, List.flatMap_append, List.flatMap_cons]
          exact List.mem_append_right _ (List.mem_append_right _ hseen)
        have hclosed : ¬ Open egress.options note.now (recentFailures egress.options
            (earlier.flatMap WorldRequestNote.breakerNotes)) := by
          have hnoted : Noted egress earlier note := (hlog ▸ h.noted).at
          cases note with
          | sent flight now request => exact hnoted.1
          | rejected | refused | unsent | settled => cases hsent.1
        have hflights : inFlight (earlier.flatMap WorldRequestNote.breakerNotes) < k := by
          rw [hlog] at hk
          exact EachAfter.at hk hsent.1
        have hnow : note.now ≤ t := of_decide_eq_true (Bool.and_eq_true_iff.mp hsent.2).1
        have hpassed := countPassed_lt hhistory horder hnow (le_refl _) hquiet' hclosed
        have hle := @worldRequestsSent_le egress t earlier
        omega
      · exact hrest

/-- `j` calls have failed and `m` are in flight, all at one time. -/
structure Bursting (egress : WorldEgress) (j m : Nat) (s : WorldRequestState) : Prop where
  invariant : RequestsInvariant egress s
  now : ∀ note ∈ s.log, note.now = 0
  failures : (recentFailures egress.options s.breakerNotes).length = j
  flights : s.pending.length = m
  quiet : ∀ seen ∈ s.breakerNotes, seen.isSucceeded = false
  sent : worldRequestsSent egress 0 s.log = j + m

theorem exists_fresh (log : List WorldRequestNote) : ∃ id, ∀ note ∈ log, note.id ≠ id := by
  obtain ⟨id, hid⟩ := Infinite.exists_notMem_finset (log.map WorldRequestNote.id).toFinset
  refine ⟨id, fun note hnote heq => hid ?_⟩
  rw [List.mem_toFinset, ← heq]
  exact List.mem_map_of_mem hnote

section Steps

variable {j m : Nat}

theorem Bursting.clock (h : Bursting egress j m s) :
    (s.log.head?.all fun note => decide (note.now ≤ 0)) = true := by
  rw [Option.all_eq_true]
  exact fun note hnote => decide_eq_true (h.now note (List.mem_of_mem_head? hnote)).le

theorem Bursting.send (h : Bursting egress j m s) {call : WorldVerification}
    {checked : WorldCandidate} {request : WorldRequest}
    (hadmitted : egress.prepare call = .ok checked)
    (hrequest : worldRequest egress.surroundings.numbers call.options.rpId call.nativeProof =
      .ok request)
    (hcool : 0 < egress.options.coolDownMs) (hj : j < egress.options.limit) :
    ∃ id s', egress.step s (.verify id call 0) = some s' ∧ Bursting egress j (m + 1) s' := by
  obtain ⟨id, hfresh⟩ := exists_fresh s.log
  refine ⟨id, egress.start id call 0 s, if_pos ⟨h.clock, hfresh⟩, ?_⟩
  have hstart := @RequestsInvariant.start _ _ h.invariant id call 0
    (now_le_of_head h.invariant.inOrder h.clock) hfresh
  have hfew : ¬ egress.options.limit ≤ (recentFailures egress.options s.breakerNotes).length := by
    rw [h.failures]
    exact Nat.not_le.mpr hj
  obtain ⟨breaker, hclosed⟩ := (@assertClosed_eq _ _ 0 h.invariant.history).mpr
    fun hopen => hfew hopen.1
  rw [← h.invariant.breaker] at hclosed
  have hs : egress.start id call 0 s = ⟨breaker, ⟨id, call, checked⟩ :: s.pending,
      .sent ⟨id, call, checked⟩ 0 request :: s.log⟩ := by
    simp only [WorldEgress.start, hadmitted, hclosed, hrequest]
  have hwithin : within egress.options.coolDownMs 0 0 = true := by
    simpa [within] using hcool
  rw [hs] at hstart ⊢
  refine ⟨hstart, List.forall_mem_cons.mpr ⟨rfl, h.now⟩, ?_, congrArg (· + 1) h.flights,
    List.forall_mem_cons.mpr ⟨rfl, h.quiet⟩, ?_⟩
  · change (recentFailures egress.options (.passed 0 :: s.breakerNotes)).length = j
    rw [recentFailures, if_neg hfew, h.failures]
  · rw [worldRequestsSent_cons, h.sent]
    change _ + (if within egress.options.coolDownMs 0 0 then 1 else 0) = _
    rw [hwithin, if_pos rfl, Nat.add_assoc]

theorem Bursting.fail (h : Bursting egress j (m + 1) s) :
    ∃ id s', egress.step s (.respond id (.rejected ⟨js "fetch failed"⟩) 0) = some s' ∧
      Bursting egress (j + 1) m s' := by
  obtain ⟨flight, rest, hpending⟩ := List.exists_cons_of_length_eq_add_one h.flights
  have hmem : flight ∈ s.pending := by
    rw [hpending]
    exact List.mem_cons_self
  have hfound : (s.pending.find? fun other => decide (other.id = flight.id)) = some flight := by
    rw [hpending, List.find?_cons_of_pos (by simp)]
  refine ⟨flight.id, egress.settle flight (.rejected ⟨js "fetch failed"⟩) 0 s, ?_, ?_⟩
  · rw [WorldEgress.step, if_pos h.clock, hfound]
    rfl
  · have hsettle := @RequestsInvariant.settle _ _ h.invariant flight
      (.rejected ⟨js "fetch failed"⟩) 0 (now_le_of_head h.invariant.inOrder h.clock) hmem
    have hcount := length_filter_flights h.invariant.distinct hmem
    refine ⟨hsettle, List.forall_mem_cons.mpr ⟨rfl, h.now⟩, congrArg (· + 1) h.failures, ?_,
      List.forall_mem_cons.mpr ⟨rfl, h.quiet⟩, ?_⟩
    · rw [h.flights] at hcount
      exact Nat.add_right_cancel hcount
    · have hsent := h.sent
      rw [WorldEgress.settle, worldRequestsSent_cons, hsent]
      change _ + 0 = _
      omega

end Steps

section Reaching

variable {call : WorldVerification} {checked : WorldCandidate} {request : WorldRequest}

theorem Bursting.reaches_flights (hadmitted : egress.prepare call = .ok checked)
    (hrequest : worldRequest egress.surroundings.numbers call.options.rpId call.nativeProof =
      .ok request)
    (hcool : 0 < egress.options.coolDownMs) {j m n : Nat} (h : Bursting egress j m s)
    (hj : j < egress.options.limit) (hn : m + n ≤ k) :
    ∃ t, egress.machine.Reaches (FlightsAtMost egress k) s t ∧ Bursting egress j (m + n) t := by
  induction n generalizing m s with
  | zero => exact ⟨s, .refl s, h⟩
  | succ n ih =>
      obtain ⟨id, next, hstep, hnext⟩ := h.send hadmitted hrequest hcool hj
      obtain ⟨t, hreaches, ht⟩ := ih hnext (by omega)
      have hguard : FlightsAtMost egress k s (.verify id call 0) := by
        intro s' hs'
        cases hstep.symm.trans hs'
        rw [hnext.flights]
        omega
      refine ⟨t, .head hguard hstep hreaches, ?_⟩
      rwa [Nat.add_assoc, Nat.add_comm 1 n] at ht

theorem Bursting.reaches (hadmitted : egress.prepare call = .ok checked)
    (hrequest : worldRequest egress.surroundings.numbers call.options.rpId call.nativeProof =
      .ok request)
    (hcool : 0 < egress.options.coolDownMs) (hk : 0 < k) {j n : Nat} (h : Bursting egress j 0 s)
    (hn : j + n < egress.options.limit) :
    ∃ t, egress.machine.Reaches (FlightsAtMost egress k) s t ∧ Bursting egress (j + n) k t := by
  induction n generalizing j s with
  | zero =>
      obtain ⟨t, hreaches, ht⟩ := h.reaches_flights hadmitted hrequest hcool hn (Nat.zero_add k).le
      rw [Nat.zero_add] at ht
      exact ⟨t, hreaches, ht⟩
  | succ n ih =>
      obtain ⟨id, sending, hsend, hsending⟩ := h.send hadmitted hrequest hcool (by omega)
      obtain ⟨id', failing, hfail, hfailing⟩ := hsending.fail
      obtain ⟨t, hreaches, ht⟩ := ih hfailing (by omega)
      have hguard : FlightsAtMost egress k s (.verify id call 0) := by
        intro s' hs'
        cases hsend.symm.trans hs'
        rw [hsending.flights]
        exact hk
      have hguard' : FlightsAtMost egress k sending
          (.respond id' (.rejected ⟨js "fetch failed"⟩) 0) := by
        intro s' hs'
        cases hfail.symm.trans hs'
        rw [hfailing.flights]
        exact Nat.zero_le k
      refine ⟨t, .head hguard hsend (.head hguard' hfail hreaches), ?_⟩
      rwa [Nat.add_assoc, Nat.add_comm 1 n] at ht

/-- How many requests World is sent in the time of a cool-down in which it confirms nothing. -/
theorem worldRequests_burst (hadmitted : egress.prepare call = .ok checked)
    (hrequest : worldRequest egress.surroundings.numbers call.options.rpId call.nativeProof =
      .ok request)
    (hcool : 0 < egress.options.coolDownMs) (hk : 0 < k) :
    IsGreatest {n | ∃ s t, egress.machine.Reaches (FlightsAtMost egress k) .initial s ∧
      CircuitBreaker.Quiet egress.options.coolDownMs t s.breakerNotes ∧
      worldRequestsSent egress t s.log = n}
      (egress.options.limit + k - 1) := by
  constructor
  · have hlimit := @limit_pos egress.options
    have hinitial : Bursting egress 0 0 .initial :=
      ⟨.initial, List.forall_mem_nil _, rfl, rfl, List.forall_mem_nil _, rfl⟩
    obtain ⟨s, hreaches, hs⟩ := hinitial.reaches (n := egress.options.limit - 1) hadmitted hrequest
      hcool hk (by omega)
    refine ⟨s, 0, hreaches, fun seen hseen hsucceeded => ?_, ?_⟩
    · rw [hs.quiet seen hseen] at hsucceeded
      cases hsucceeded
    · rw [hs.sent]
      omega
  · rintro _ ⟨s, t, hreaches, hquiet, rfl⟩
    obtain ⟨hinvariant, hatMost⟩ := hreaches.invariant
      (I := fun s => RequestsInvariant egress s ∧ SentAtMost k s.log)
      (fun _ _ _ h hguard hstep => ⟨h.1.step hstep, SentAtMost.step h.1 h.2 hguard hstep⟩)
      ⟨.initial, trivial⟩
    exact Nat.le_sub_one_of_lt (@worldRequestsSent_lt egress k s t hinvariant hatMost hquiet []
      s.log rfl)

end Reaching

end Burst

theorem worldRequests_burst_failing :
    IsGreatest {n | ∃ s t,
      FailingWorld.egress.machine.Reaches (FlightsAtMost FailingWorld.egress 3) .initial s ∧
      CircuitBreaker.Quiet 1000 t s.breakerNotes ∧
      worldRequestsSent FailingWorld.egress t s.log = n} 4 :=
  @worldRequests_burst FailingWorld.egress 3 FailingWorld.call
    ⟨TwoResponses.request, WORLD_ID_PROOF_OF_HUMAN_METHOD,
      ⟨WORLD_ID_PROOF_OF_HUMAN_METHOD, js "proof_of_human", js "proof-of-human", js "0x05"⟩⟩
    _ (by rfl) (by rfl) (by decide) (by decide)

end X424
