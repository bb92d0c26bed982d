import X424.Js.Quote
import X424.NonceStore

/-!
# Redis state

A Redis database is a table of cells; a key set with `PXAT t` is gone from
time `t` on, so commands see live cells only.  Each command and each Lua
script is one atomic step at the server's time.  A cell holds a string, or the
value that its string is the canonical JSON of.  Keys and arguments reach the
server unchanged: they hold no unpaired surrogate.
-/

namespace X424

open Foundation

abbrev RedisTable (ν : Type) := Cells JsString ν

abbrev RedisDb := RedisTable JsString

namespace RedisTable

variable {ν : Type}

def get (db : RedisTable ν) (now : Instant) (key : JsString) : Option ν :=
  (db.live now key).map Cell.value

/-- `SET key value NX PXAT expiresAtMs`; the answer says whether Redis replied `OK`. -/
def setNx (db : RedisTable ν) (now : Instant) (key : JsString) (value : ν)
    (expiresAtMs : Instant) : Bool × RedisTable ν :=
  if (db.live now key).isSome then (false, db)
  else (true, db.put key ⟨value, expiresAtMs⟩)

end RedisTable

/-! ## Lua scripts -/

def consumeNonceScript (now : Instant) (key argument : JsString) (db : RedisDb) :
    Int × RedisDb :=
  if db.get now key = some argument then (1, db.erase key) else (0, db)

def acceptResultScript (now : Instant) (key argument : JsString) (expiresAtMs : Instant)
    (db : RedisDb) : Int × RedisDb :=
  match db.get now key with
  | none => (1, db.put key ⟨argument, expiresAtMs⟩)
  | some current => (if current = argument then 2 else 0, db)

def consumeResultWithLegacyScript (now : Instant) (key legacyKey : JsString)
    (expiresAtMs : Instant) (db : RedisDb) : Int × RedisDb :=
  if (db.live now legacyKey).isSome then (0, db)
  else if (db.live now key).isSome then (0, db)
  else (1, db.put key ⟨js "1", expiresAtMs⟩)

def acceptResultWithLegacyScript (now : Instant) (key legacyKey argument : JsString)
    (expiresAtMs : Instant) (db : RedisDb) : Int × RedisDb :=
  match (db.get now legacyKey).or (db.get now key) with
  | none => (1, db.put key ⟨argument, expiresAtMs⟩)
  | some current => (if current = argument then 2 else 0, db)

/-! ## Keys and values -/

/-- The key of one kind of state.  `RedisX424Store` uses the kinds `nonce`,
`provider`, `requirement`, `result` and `acceptance`. -/
def redisKey (keyPrefix kind id : JsString) : JsString :=
  keyPrefix ++ js ":" ++ kind ++ js ":" ++ id

theorem redisKey_injective (keyPrefix kind : JsString) :
    Function.Injective (redisKey keyPrefix kind) := by
  intro a b h
  exact List.append_cancel_left h

@[simp] theorem redisKey_inj {keyPrefix kind a b : JsString} :
    redisKey keyPrefix kind a = redisKey keyPrefix kind b ↔ a = b :=
  (redisKey_injective keyPrefix kind).eq_iff

/-- `canonicalJson({ operationId, requestDigest })`. -/
def AcceptedOperation.canonicalJson (operation : AcceptedOperation) : JsString :=
  js "\x7b\"operationId\":" ++ quote operation.operationId ++
    js ",\"requestDigest\":" ++ quote operation.requestDigest ++ js "\x7d"

theorem AcceptedOperation.canonicalJson_injective :
    Function.Injective AcceptedOperation.canonicalJson := by
  rintro ⟨operationId, requestDigest⟩ ⟨operationId', requestDigest'⟩ h
  simp only [canonicalJson, List.append_assoc] at h
  obtain ⟨hoperation, hrest⟩ := quote_append_inj (List.append_cancel_left h)
  obtain ⟨hdigest, _⟩ := quote_append_inj (List.append_cancel_left hrest)
  rw [hoperation, hdigest]

@[simp] theorem AcceptedOperation.canonicalJson_inj {a b : AcceptedOperation} :
    a.canonicalJson = b.canonicalJson ↔ a = b :=
  AcceptedOperation.canonicalJson_injective.eq_iff

/-- `#futureExpiry`. -/
def futureExpiry (expiresAt : IsoTimestamp) (now : Instant) : Option Instant :=
  expiresAt.filter fun expiresAtMs => now < expiresAtMs

/-! ## The stores of `RedisX424Store` -/

namespace RedisX424Store

variable (keyPrefix : JsString)

/-- `#setOnce`. -/
def setOnce {ν : Type} (kind id : JsString) (value : ν) (expiresAt : IsoTimestamp)
    (now : Instant) (duplicateMessage : JsString) (db : RedisTable ν) :
    Except JsError Unit × RedisTable ν :=
  if id.isEmpty then (.error ⟨js "x424 store ID is required"⟩, db)
  else
    match futureExpiry expiresAt now with
    | none => (.error ⟨js "Invalid or expired entry"⟩, db)
    | some expiresAtMs =>
        match db.setNx now (redisKey keyPrefix kind id) value expiresAtMs with
        | (true, db) => (.ok (), db)
        | (false, db) => (.error ⟨duplicateMessage⟩, db)

def putNonce (dependencyId nonce : JsString) (expiresAt : IsoTimestamp) (now : Instant)
    (db : RedisDb) : Except JsError Unit × RedisDb :=
  if nonce.isEmpty then (.error ⟨js "Invalid nonce entry"⟩, db)
  else
    setOnce keyPrefix (js "nonce") dependencyId nonce expiresAt now
      (js "Dependency ID already exists") db

def consumeNonce (dependencyId nonce : JsString) (_checkedAt now : Instant) (db : RedisDb) :
    Except JsError Bool × RedisDb :=
  if dependencyId.isEmpty then (.error ⟨js "x424 store ID is required"⟩, db)
  else
    let reply :=
      consumeNonceScript now (redisKey keyPrefix (js "nonce") dependencyId) nonce db
    (.ok (reply.1 == 1), reply.2)

def consumeResult (resultId : JsString) (expiresAt : IsoTimestamp) (checkedAt now : Instant)
    (db : RedisDb) : Except JsError Bool × RedisDb :=
  match futureExpiry expiresAt checkedAt with
  | none => (.ok false, db)
  | some expiresAtMs =>
      if resultId.isEmpty then (.error ⟨js "x424 store ID is required"⟩, db)
      else
        let reply :=
          db.setNx now (redisKey keyPrefix (js "result") resultId) (js "1") expiresAtMs
        (.ok reply.1, reply.2)

def consumeResultWithLegacy (resultId legacyResultId : JsString)
    (expiresAt : IsoTimestamp) (now : Instant) (db : RedisDb) :
    Except JsError Bool × RedisDb :=
  match futureExpiry expiresAt now with
  | none => (.ok false, db)
  | some expiresAtMs =>
      if resultId.isEmpty || !wellFormedLegacyId legacyResultId then (.ok false, db)
      else
        let reply :=
          consumeResultWithLegacyScript now (redisKey keyPrefix (js "result") resultId)
            (redisKey keyPrefix (js "result") legacyResultId) expiresAtMs db
        (.ok (reply.1 == 1), reply.2)

def statusOfReply (reply : Int) : ResultAcceptanceStatus :=
  if reply = 1 then .new else if reply = 2 then .sameOperation else .replay

def acceptResult (input : ResultAcceptanceInput) (checkedAt now : Instant) (db : RedisDb) :
    Except JsError ResultAcceptanceStatus × RedisDb :=
  match futureExpiry input.expiresAt checkedAt with
  | none => (.ok .replay, db)
  | some expiresAtMs =>
      if !input.wellFormed then (.ok .replay, db)
      else
        let reply :=
          acceptResultScript now (redisKey keyPrefix (js "acceptance") input.resultId)
            input.operation.canonicalJson expiresAtMs db
        (.ok (statusOfReply reply.1), reply.2)

def acceptResultWithLegacy (input : ResultAcceptanceInput) (legacyResultId : JsString)
    (now : Instant) (db : RedisDb) : Except JsError ResultAcceptanceStatus × RedisDb :=
  match futureExpiry input.expiresAt now with
  | none => (.ok .replay, db)
  | some expiresAtMs =>
      if !input.wellFormed || !wellFormedLegacyId legacyResultId then (.ok .replay, db)
      else
        let reply :=
          acceptResultWithLegacyScript now
            (redisKey keyPrefix (js "acceptance") input.resultId)
            (redisKey keyPrefix (js "acceptance") legacyResultId)
            input.operation.canonicalJson expiresAtMs db
        (.ok (statusOfReply reply.1), reply.2)

def nonces : NonceStore RedisDb where
  empty := Cells.empty
  put := putNonce keyPrefix
  consume := consumeNonce keyPrefix

def results : ResultReplayStore RedisDb where
  empty := Cells.empty
  consume := consumeResult keyPrefix
  consumeWithLegacy := consumeResultWithLegacy keyPrefix

def resultAcceptances : ResultAcceptanceStore RedisDb where
  empty := Cells.empty
  accept := acceptResult keyPrefix
  acceptWithLegacy := acceptResultWithLegacy keyPrefix

end RedisX424Store

end X424
