import X424.Types

/-!
# The method catalog

`catalog.ts`: which descriptors a catalog takes.
-/

namespace X424

def isIdentifierStart (u : UInt16) : Bool := isAsciiLower u || (0x30 ≤ u && u ≤ 0x39)

def isIdentifierUnit (u : UInt16) : Bool :=
  isIdentifierStart u || u == 0x2E || u == 0x5F || u == 0x2D

/-- `HUMAN_METHOD_IDENTIFIER_PATTERN`: `/^[a-z0-9][a-z0-9._-]{0,99}$/`. -/
def isHumanMethodIdentifier : JsString → Bool
  | [] => false
  | u :: rest => isIdentifierStart u && decide (rest.length ≤ 99) && rest.all isIdentifierUnit

abbrev MethodCatalog := List (JsString × HumanMethodDescriptor)

/-- `catalog.get(key)`. -/
def MethodCatalog.get (catalog : MethodCatalog) (key : JsString) : Option HumanMethodDescriptor :=
  catalog.lookup key

def addDescriptor (catalog : MethodCatalog) (descriptor : HumanMethodDescriptor) :
    Except JsError MethodCatalog :=
  let key := methodKey descriptor.providerId descriptor.methodId
  if (catalog.get key).isSome then .error ⟨js "Duplicate human method: " ++ key⟩
  else if !isHumanMethodIdentifier descriptor.providerId ||
      !isHumanMethodIdentifier descriptor.methodId || descriptor.version.isEmpty then
    .error ⟨js "Human method identifiers are invalid: " ++ key⟩
  else if descriptor.claim.isEmpty || descriptor.nonClaims.isEmpty then
    .error ⟨js "Human method must declare claim and non-claims: " ++ key⟩
  else if descriptor.nativeScopeKinds.isEmpty || descriptor.verificationModes.isEmpty then
    .error ⟨js "Human method must declare scope and execution: " ++ key⟩
  else .ok (catalog ++ [(key, descriptor)])

def defineMethodCatalog (descriptors : List HumanMethodDescriptor) :
    Except JsError MethodCatalog :=
  descriptors.foldlM addDescriptor []

structure HumanMethodDescriptor.Defined (descriptor : HumanMethodDescriptor) : Prop where
  providerId : isHumanMethodIdentifier descriptor.providerId = true
  methodId : isHumanMethodIdentifier descriptor.methodId = true
  version : descriptor.version ≠ []
  claim : descriptor.claim ≠ []
  nonClaims : descriptor.nonClaims ≠ []
  nativeScopeKinds : descriptor.nativeScopeKinds ≠ []
  verificationModes : descriptor.verificationModes ≠ []

theorem addDescriptor_eq_ok {catalog catalog' : MethodCatalog}
    {descriptor : HumanMethodDescriptor} (h : addDescriptor catalog descriptor = .ok catalog') :
    descriptor.Defined ∧
      catalog' = catalog ++
        [(methodKey descriptor.providerId descriptor.methodId, descriptor)] := by
  simp only [addDescriptor, Bool.or_eq_true, Bool.not_eq_true', List.isEmpty_iff] at h
  split_ifs at h with hduplicate hidentifiers hclaims hscopes
  simp only [not_or, Bool.not_eq_false] at hidentifiers hclaims hscopes
  obtain ⟨⟨hprovider, hmethod⟩, hversion⟩ := hidentifiers
  exact ⟨⟨hprovider, hmethod, hversion, hclaims.1, hclaims.2, hscopes.1, hscopes.2⟩,
    (Except.ok.inj h).symm⟩

theorem foldlM_invariant {α β ε : Type} {f : β → α → Except ε β} {I : β → Prop}
    (hstep : ∀ b a c, I b → f b a = .ok c → I c) :
    ∀ {as : List α} {b c : β}, I b → as.foldlM f b = .ok c → I c
  | [], b, c, hb, h => by
      cases h
      exact hb
  | a :: as, b, c, hb, h => by
      rw [List.foldlM_cons] at h
      cases hnext : f b a with
      | error error =>
          rw [hnext] at h
          cases h
      | ok next =>
          rw [hnext] at h
          exact foldlM_invariant hstep (hstep b a next hb hnext) h

theorem defined_of_defineMethodCatalog {descriptors : List HumanMethodDescriptor}
    {catalog : MethodCatalog} (h : defineMethodCatalog descriptors = .ok catalog)
    {key : JsString} {descriptor : HumanMethodDescriptor}
    (hget : catalog.get key = some descriptor) :
    key = methodKey descriptor.providerId descriptor.methodId ∧ descriptor.Defined := by
  have hall : ∀ entry ∈ catalog,
      entry.1 = methodKey entry.2.providerId entry.2.methodId ∧ entry.2.Defined := by
    refine foldlM_invariant (I := fun catalog : MethodCatalog => ∀ entry ∈ catalog,
      entry.1 = methodKey entry.2.providerId entry.2.methodId ∧ entry.2.Defined)
      (fun catalog descriptor next hcatalog hadd entry hentry => ?_) (by simp) h
    obtain ⟨hdefined, rfl⟩ := addDescriptor_eq_ok hadd
    rcases List.mem_append.mp hentry with hold | hnew
    · exact hcatalog entry hold
    · rw [List.mem_singleton] at hnew
      subst hnew
      exact ⟨rfl, hdefined⟩
  obtain ⟨before, after, hsplit, -⟩ := List.lookup_eq_some_iff.mp hget
  exact hall (key, descriptor) (by rw [hsplit]; simp)

end X424
