import X424.Redis
import X424.Schemas.Result

/-!
# Provider subjects

The stores that retain a provider's subject under its uniqueness scope.  An
entry is kept for good, so each store is a set of keys; they differ in the key
that they compute for an entry.
-/

namespace X424

structure ProviderReplayEntry where
  providerId : JsString
  methodId : JsString
  uniquenessScope : UniquenessScope
  subjectDigest : JsString
  deriving DecidableEq

namespace ProviderReplayEntry

def parts (entry : ProviderReplayEntry) : List JsString :=
  [entry.providerId, entry.methodId, entry.uniquenessScope.kind.text, entry.uniquenessScope.id,
    entry.subjectDigest]

def join (separator : UInt16) (entry : ProviderReplayEntry) : JsString :=
  [separator].intercalate entry.parts

def incomplete (entry : ProviderReplayEntry) : Bool :=
  entry.providerId.isEmpty || entry.methodId.isEmpty || entry.uniquenessScope.id.isEmpty ||
    entry.subjectDigest.isEmpty

end ProviderReplayEntry

abbrev SpentKeys := List JsString

/-- `ProviderReplayStore`: the key of an entry, unless it is refused. -/
structure ProviderReplayStore where
  key : ProviderReplayEntry → Option JsString

/-- Retain one provider subject; `false` means already consumed. -/
def ProviderReplayStore.consume (store : ProviderReplayStore) (entry : ProviderReplayEntry)
    (spent : SpentKeys) : Bool × SpentKeys :=
  match store.key entry with
  | none => (false, spent)
  | some key => if spent.contains key then (false, spent) else (true, key :: spent)

/-- `InMemoryProviderReplayStore`. -/
def inMemoryProviderReplayStore : ProviderReplayStore where
  key entry := if entry.incomplete then none else some (entry.join 0x00)

/-- `RedisX424Store.#consumeProvider`: `SET key 1 NX`. -/
def redisProviderReplayStore (keyPrefix : JsString) : ProviderReplayStore where
  key entry :=
    if entry.incomplete then none
    else some (redisKey keyPrefix (js "provider") (entry.join 0x3A))

/-- `PostgresX424Store.#consumeProvider`: `INSERT … ON CONFLICT (digest) DO NOTHING`. -/
def postgresProviderReplayStore (sha256 : JsString → JsString) : ProviderReplayStore where
  key entry := some (sha256 (entry.join 0x00))

namespace ProviderReplayStore

variable {store : ProviderReplayStore} {entry : ProviderReplayEntry} {spent : SpentKeys}

def Free (store : ProviderReplayStore) (entry : ProviderReplayEntry) (spent : SpentKeys) : Prop :=
  ∃ key, store.key entry = some key ∧ key ∉ spent

theorem consume_of_free (h : store.Free entry spent) :
    ∃ key, store.key entry = some key ∧ store.consume entry spent = (true, key :: spent) := by
  obtain ⟨key, hkey, hfree⟩ := h
  exact ⟨key, hkey, by simp [consume, hkey, hfree]⟩

theorem consume_of_not_free (h : ¬ store.Free entry spent) :
    store.consume entry spent = (false, spent) := by
  unfold consume
  cases hkey : store.key entry with
  | none => rfl
  | some key =>
      have hspent : key ∈ spent := by
        by_contra hfree
        exact h ⟨key, hkey, hfree⟩
      simp [hspent]

end ProviderReplayStore

end X424
