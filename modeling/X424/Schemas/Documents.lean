import X424.Schemas.Reading

/-!
# Requirements in canonical form

The canonical form of a requirement is a requirement again: only the order of
the material in its provider requests changes.
-/

namespace X424

namespace ObjectShape

variable {κ : Type} {shape : ObjectShape κ}

theorem membersOf_map (values : κ → Option Json) (f : Json → Json) :
    (shape.membersOf values).map (fun member => (member.1, f member.2)) =
      shape.membersOf fun k => (values k).map f := by
  simp only [membersOf, List.map_filterMap]
  refine List.filterMap_congr fun k _ => ?_
  cases values k <;> rfl

theorem ne_proto_of_mem_membersOf {values : κ → Option Json} {member : JsString × Json}
    (h : member ∈ shape.membersOf values) : member.1 ≠ protoKey := by
  obtain ⟨k, -, hname⟩ := mem_membersOf.mp h
  rw [hname]
  exact shape.name_ne_proto k

theorem normalize_ofFields_map (values : κ → Option Json) :
    normalize (shape.ofFields values) = shape.ofFields fun k => (values k).map normalize := by
  have hmembers : normalizeMembers (shape.membersOf values) =
      shape.membersOf fun k => (values k).map normalize := by
    rw [normalizeMembers_eq_map, List.filter_eq_self.mpr fun member hmember =>
      decide_eq_true (ne_proto_of_mem_membersOf hmember), membersOf_map]
  simp only [ofFields, normalize, Json.object.injEq, hmembers]
  exact ((pairwise_membersOf _).imp fun hlt => le_of_lt hlt).insertionSort_eq

theorem everyObject_ofFields {P : List JsString → Prop} {values : κ → Option Json}
    (hkeys : P ((shape.membersOf values).map Prod.fst)) :
    (shape.ofFields values).EveryObject P ↔
      ∀ k, ∀ value ∈ values k, value.EveryObject P := by
  rw [ofFields, everyObject_object]
  constructor
  · rintro ⟨-, h⟩ k value hvalue
    exact h (shape.name k, value) (mem_membersOf.mpr ⟨k, hvalue, rfl⟩)
  · refine fun h => ⟨hkeys, fun member hmember => ?_⟩
    obtain ⟨k, hvalue, -⟩ := mem_membersOf.mp hmember
    exact h k member.2 hvalue

end ObjectShape

/-! ## Parts of a requirement -/

section Parts

variable {numbers : JsNumbers}

theorem canonical_array {items : List Json} (h : ∀ item ∈ items, item.Canonical numbers) :
    (Json.array items).Canonical numbers := by
  refine ⟨.array fun item hitem => (h item hitem).wellFormed, ?_⟩
  rw [normalize, normalizeItems_eq_map]
  exact congrArg Json.array ((List.map_congr_left fun item hitem => (h item hitem).normalized).trans
    (List.map_id _))

theorem canonical_number {n : Nat} (h : n ≤ 2 ^ 53) : (Json.number n).Canonical numbers :=
  ⟨.number (numbers.isDouble_nat n h), rfl⟩

/-- The age limit of an accepted method is a number that JSON keeps. -/
def HumanMethodRequirement.SafeAge (accepted : HumanMethodRequirement) : Prop :=
  ∀ seconds ∈ accepted.maximumProofAgeSeconds, seconds ≤ 86400

theorem canonical_methodRequirement {accepted : HumanMethodRequirement} (h : accepted.SafeAge) :
    accepted.toJson.Canonical numbers := by
  refine canonical_ofFields fun k value hvalue => ?_
  cases k with
  | acceptedScopeKinds =>
      cases hvalue
      refine canonical_array fun item hitem => ?_
      obtain ⟨kind, -, rfl⟩ := List.mem_map.mp hitem
      exact canonical_string _
  | assuranceLevel =>
      obtain ⟨level, -, rfl⟩ := Option.map_eq_some_iff.mp hvalue
      exact canonical_string _
  | descriptorVersion =>
      cases hvalue
      exact canonical_string _
  | maximumProofAgeSeconds =>
      obtain ⟨seconds, hseconds, rfl⟩ := Option.map_eq_some_iff.mp hvalue
      have hbound := h seconds hseconds
      exact canonical_number (by omega)
  | methodId =>
      cases hvalue
      exact canonical_string _
  | providerId =>
      cases hvalue
      exact canonical_string _
  | verificationModes =>
      obtain ⟨modes, -, rfl⟩ := Option.map_eq_some_iff.mp hvalue
      refine canonical_array fun item hitem => ?_
      obtain ⟨mode, -, rfl⟩ := List.mem_map.mp hitem
      exact canonical_string _

theorem RequirementDocument.Valid.safeAge {dates : JsDates} {document : RequirementDocument}
    (h : document.Valid dates) : ∀ accepted ∈ document.accepts, accepted.SafeAge :=
  fun accepted haccepted seconds hseconds =>
    ((h.accepts.2 accepted haccepted).maximumProofAgeSeconds seconds hseconds).2

theorem canonical_resource (resource : ProtectedResource) :
    resource.toJson.Canonical numbers := by
  refine canonical_ofFields fun k value hvalue => ?_
  cases k <;> cases hvalue <;> exact canonical_string _

end Parts

/-! ## Requirements -/

namespace RequirementDocument

variable {numbers : JsNumbers}

/-- The material for the providers in canonical order, without members named `__proto__`. -/
def normalized (document : RequirementDocument) : RequirementDocument :=
  { document with
    providerRequests := document.providerRequests.map fun members =>
      (normalizeMembers members).insertionSort memberLe }

theorem canonical_fieldValue {document : RequirementDocument}
    (h : ∀ accepted ∈ document.accepts, accepted.SafeAge) {k : RequirementField}
    (hk : k ≠ .providerRequests) {value : Json} (hvalue : document.fieldValue k = some value) :
    value.Canonical numbers := by
  cases k with
  | accepts =>
      cases hvalue
      refine canonical_array fun item hitem => ?_
      obtain ⟨accepted, haccepted, rfl⟩ := List.mem_map.mp hitem
      exact canonical_methodRequirement (h accepted haccepted)
  | binding =>
      cases hvalue
      exact canonical_binding _
  | createdAt =>
      cases hvalue
      exact canonical_string _
  | dependencyId =>
      cases hvalue
      exact canonical_string _
  | expiresAt =>
      cases hvalue
      exact canonical_string _
  | nonce =>
      cases hvalue
      exact canonical_string _
  | providerRequests => exact absurd rfl hk
  | purpose =>
      cases hvalue
      exact canonical_string _
  | resource =>
      cases hvalue
      exact canonical_resource _
  | x424Version =>
      cases hvalue
      exact canonical_string _

theorem wellFormed_toJson {document : RequirementDocument}
    (h : ∀ accepted ∈ document.accepts, accepted.SafeAge)
    (hrequests : ∀ members ∈ document.providerRequests, (Json.object members).WellFormed numbers) :
    document.toJson.WellFormed numbers := by
  refine ObjectShape.wellFormed_ofFields fun k value hvalue => ?_
  by_cases hk : k = .providerRequests
  · subst hk
    obtain ⟨members, hmembers, rfl⟩ := Option.map_eq_some_iff.mp hvalue
    exact hrequests members hmembers
  · exact (canonical_fieldValue h hk hvalue).wellFormed

theorem normalize_toJson {document : RequirementDocument}
    (h : ∀ accepted ∈ document.accepts, accepted.SafeAge) :
    normalize document.toJson = document.normalized.toJson := by
  rw [toJson, ObjectShape.normalize_ofFields_map, toJson]
  refine congrArg requirementShape.ofFields (funext fun k => ?_)
  by_cases hk : k = .providerRequests
  · subst hk
    simp only [fieldValue, normalized, Option.map_map]
    rfl
  · have hother : document.normalized.fieldValue k = document.fieldValue k := by
      cases k <;> first | rfl | exact absurd rfl hk
    rw [hother]
    cases hvalue : document.fieldValue k with
    | none => rfl
    | some value =>
        exact congrArg some
          (@canonical_fieldValue wholeNumbers _ h _ hk _ hvalue).normalized

/-- The requirement has no member named `__proto__` and only numbers of the language. -/
structure Plain (numbers : JsNumbers) (document : RequirementDocument) : Prop where
  wellFormed : ∀ members ∈ document.providerRequests, (Json.object members).WellFormed numbers
  protoFree : ∀ members ∈ document.providerRequests, (Json.object members).ProtoFree

theorem protoFree_toJson {document : RequirementDocument}
    (h : ∀ accepted ∈ document.accepts, accepted.SafeAge) (hplain : document.Plain numbers) :
    document.toJson.ProtoFree := by
  refine (ObjectShape.everyObject_ofFields ?_).mpr fun k value hvalue => ?_
  · intro hmem
    obtain ⟨member, hmember, hname⟩ := List.mem_map.mp hmem
    exact ObjectShape.ne_proto_of_mem_membersOf hmember hname
  · by_cases hk : k = .providerRequests
    · subst hk
      obtain ⟨members, hmembers, rfl⟩ := Option.map_eq_some_iff.mp hvalue
      exact hplain.protoFree members hmembers
    · have hcanonical : value.Canonical numbers := canonical_fieldValue h hk hvalue
      rw [← hcanonical.normalized]
      exact protoFree_normalize hcanonical.wellFormed.distinctKeys

theorem knownMembers_eq_self {members : List (JsString × Json)}
    (h : (Json.object members).ProtoFree) : knownMembers members = members :=
  List.filter_eq_self.mpr fun _ hmember => decide_eq_true fun hkey =>
    (everyObject_object.mp h).1 (hkey ▸ List.mem_map_of_mem hmember)

theorem map_knownMembers {requests : Option (List (JsString × Json))}
    (h : ∀ members ∈ requests, (Json.object members).ProtoFree) :
    requests.map knownMembers = requests := by
  cases requests with
  | none => rfl
  | some members => exact congrArg some (knownMembers_eq_self (h members rfl))

theorem protoFree_normalized {document : RequirementDocument}
    (hrequests : ∀ members ∈ document.providerRequests, (Json.object members).WellFormed numbers) :
    ∀ members ∈ document.normalized.providerRequests, (Json.object members).ProtoFree := by
  intro members hmembers
  obtain ⟨source, hsource, rfl⟩ := Option.map_eq_some_iff.mp hmembers
  exact protoFree_normalize (hrequests source hsource).distinctKeys

def withUrls (document : RequirementDocument) (uri audience : JsString) : RequirementDocument :=
  { document with resource := { document.resource with uri := uri, audience := audience } }

theorem schema_toJson {dates : JsDates} {urls : JsUrls} {document result : RequirementDocument}
    (hproto : ∀ members ∈ document.providerRequests, (Json.object members).ProtoFree) :
    HumanRequirementSchema dates urls document.toJson = some result ↔
      document.Valid dates ∧ ∃ uri audience,
        (urls.check document.resource.uri = some uri ∧ uri.length ≤ 2048) ∧
        (urls.check document.resource.audience = some audience ∧ audience.length ≤ 2048) ∧
        result = document.withUrls uri audience := by
  rw [HumanRequirementSchema_toJson, map_knownMembers hproto]
  rfl

end RequirementDocument

end X424
