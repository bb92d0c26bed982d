import X424.Schemas.Documents

/-!
# Schemas do not see the order of members

The JSON of a requirement is read as the same requirement, whatever the order
of the members in its objects.
-/

namespace X424

/-! ## Values without objects -/

abbrev Json.NoObject : Json → Prop := Json.EveryObject fun _ => False

theorem Json.Same.eq_of_noObject {a b : Json} (h : a.Same b) (hb : b.NoObject) : a = b := by
  induction h with
  | null => rfl
  | bool value => rfl
  | number value => rfl
  | string value => rfl
  | @array a b hlength _ ih =>
      refine congrArg Json.array (List.ext_getElem hlength fun i hi hi' => ?_)
      exact ih (a[i], b[i]) (List.mem_iff_getElem.mpr ⟨i, by simp [hi, hi'], by simp⟩)
        (everyObject_array.mp hb _ (List.getElem_mem hi'))
  | object => exact (everyObject_object.mp hb).1.elim

theorem rel_eq_of_noObject {a b : Option Json} (h : Option.Rel Json.Same a b)
    (hb : ∀ value ∈ b, value.NoObject) : a = b := by
  cases h with
  | none => rfl
  | some hsame => rw [hsame.eq_of_noObject (hb _ rfl)]

theorem noObject_strings (texts : List JsString) :
    (Json.array (texts.map .string)).NoObject := by
  refine .array fun item hitem => ?_
  obtain ⟨text, -, rfl⟩ := List.mem_map.mp hitem
  exact .string text

/-! ## Objects with known members -/

theorem strictObject_same {κ : Type} {shape : ObjectShape κ} {json : Json}
    {values : κ → Option Json} (h : json.Same (shape.ofFields values)) (hkeys : json.DistinctKeys) :
    ∃ field, shape.strictObject json = some field ∧
      ∀ k, Option.Rel Json.Same (field k) (values k) := by
  have hmember := fun k => memberOf_same h hkeys (shape.name k)
  simp only [memberOf_ofFields] at hmember
  rw [ObjectShape.ofFields] at h
  cases h with
  | @object members _ hperm hsame =>
      refine ⟨fun k => members.lookup (shape.name k), ?_, hmember⟩
      have hknown : (members.all fun member =>
          shape.fields.any fun k => shape.name k == member.1) = true := by
        refine List.all_eq_true.mpr fun member hmem => ?_
        obtain ⟨other, hother, hname⟩ := List.mem_map.mp
          (hperm.mem_iff.mp (List.mem_map_of_mem (f := Prod.fst) hmem))
        obtain ⟨k, -, hk⟩ := ObjectShape.mem_membersOf.mp hother
        exact List.any_eq_true.mpr ⟨k, shape.complete k, by rw [← hk, hname, beq_self_eq_true]⟩
      rw [ObjectShape.strictObject, if_pos hknown]

theorem zObject_same {κ : Type} {shape : ObjectShape κ} {json : Option Json}
    {values : κ → Option Json} (h : Option.Rel Json.Same json (some (shape.ofFields values)))
    (hkeys : ∀ value ∈ json, value.DistinctKeys)
    (hvalues : ∀ k, ∀ value ∈ values k, value.NoObject) : zObject shape json = some values := by
  cases h with
  | some hsame =>
      obtain ⟨field, hfield, hrel⟩ := strictObject_same hsame (hkeys _ rfl)
      rw [zObject, hfield]
      exact congrArg some (funext fun k => rel_eq_of_noObject (hrel k) (hvalues k))

/-! ## Parts of a requirement -/

theorem bindingSchema_same {json : Option Json} {binding : HumanBinding}
    (h : Option.Rel Json.Same json (some binding.toJson))
    (hkeys : ∀ value ∈ json, value.DistinctKeys) :
    bindingSchema json = bindingSchema (some binding.toJson) := by
  have hobject := zObject_same h hkeys fun k value hvalue => by
    cases k <;> cases hvalue <;> exact .string _
  rw [bindingSchema, bindingSchema, hobject, HumanBinding.toJson, zObject,
    ObjectShape.strictObject_ofFields]

theorem resourceSchema_unordered {urls : JsUrls} {json : Option Json} {resource : ProtectedResource}
    (h : Option.Rel Json.Same json (some resource.toJson))
    (hkeys : ∀ value ∈ json, value.DistinctKeys) :
    resourceSchema urls json = resourceSchema urls (some resource.toJson) := by
  have hobject := zObject_same h hkeys fun k value hvalue => by
    cases k <;> cases hvalue <;> exact .string _
  rw [resourceSchema, resourceSchema, hobject, ProtectedResource.toJson, zObject,
    ObjectShape.strictObject_ofFields]

theorem methodRequirementSchema_same {json : Option Json} {accepted : HumanMethodRequirement}
    (h : Option.Rel Json.Same json (some accepted.toJson))
    (hkeys : ∀ value ∈ json, value.DistinctKeys) :
    methodRequirementSchema json = methodRequirementSchema (some accepted.toJson) := by
  have hobject := zObject_same h hkeys fun k value hvalue => by
    cases k with
    | acceptedScopeKinds =>
        cases hvalue
        rw [← Function.comp_def, ← List.map_map]
        exact noObject_strings _
    | assuranceLevel =>
        obtain ⟨level, -, rfl⟩ := Option.map_eq_some_iff.mp hvalue
        exact .string _
    | descriptorVersion =>
        cases hvalue
        exact .string _
    | maximumProofAgeSeconds =>
        obtain ⟨seconds, -, rfl⟩ := Option.map_eq_some_iff.mp hvalue
        exact .number _
    | methodId =>
        cases hvalue
        exact .string _
    | providerId =>
        cases hvalue
        exact .string _
    | verificationModes =>
        obtain ⟨modes, -, rfl⟩ := Option.map_eq_some_iff.mp hvalue
        rw [← Function.comp_def, ← List.map_map]
        exact noObject_strings _
  rw [methodRequirementSchema, methodRequirementSchema, hobject, HumanMethodRequirement.toJson,
    zObject, ObjectShape.strictObject_ofFields]

theorem mapM_same {α : Type} {check : Json → Option α} {as bs : List Json}
    (h : List.Forall₂ (fun a b => check a = check b) as bs) : as.mapM check = bs.mapM check := by
  induction h with
  | nil => rfl
  | cons hhead _ ih => rw [List.mapM_cons, List.mapM_cons, hhead, ih]

theorem acceptsSchema_same {json : Option Json} {accepts : List HumanMethodRequirement}
    (h : Option.Rel Json.Same json (some (.array (accepts.map HumanMethodRequirement.toJson))))
    (hkeys : ∀ value ∈ json, value.DistinctKeys) :
    zArray methodRequirementSchema 1 10 json =
      zArray methodRequirementSchema 1 10
        (some (.array (accepts.map HumanMethodRequirement.toJson))) := by
  cases h with
  | some hsame =>
      have hitems := hkeys _ rfl
      cases hsame with
      | @array items _ hlength hsame =>
          have hread : List.Forall₂ (fun a b => methodRequirementSchema (some a) =
              methodRequirementSchema (some b)) items
              (accepts.map HumanMethodRequirement.toJson) := by
            refine List.forall₂_iff_zip.mpr ⟨hlength, fun {a b} hab => ?_⟩
            obtain ⟨accepted, -, rfl⟩ := List.mem_map.mp (List.of_mem_zip hab).2
            refine methodRequirementSchema_same (.some (hsame _ hab)) ?_
            rintro _ ⟨⟩
            exact everyObject_array.mp hitems _ (List.of_mem_zip hab).1
          simp only [zArray, hlength, mapM_same hread]

theorem knownMembers_same {a b : List (JsString × Json)}
    (h : (Json.object a).Same (.object b)) :
    (Json.object (knownMembers a)).Same (.object (knownMembers b)) := by
  cases h with
  | object hperm hsame =>
      refine .object ?_ fun x hx y hy hkey => hsame x (List.mem_of_mem_filter hx) y
        (List.mem_of_mem_filter hy) hkey
      have hfilter := hperm.filter fun key => decide (key ≠ protoKey)
      rw [List.filter_map, List.filter_map] at hfilter
      exact hfilter

theorem zRecords_same {maximum : Nat} {field : Option Json}
    {requests : Option (List (JsString × Json))}
    (h : Option.Rel Json.Same field (requests.map .object))
    (hbound : ∀ members ∈ requests, ∀ member ∈ knownMembers members,
      member.1.length ≤ maximum) :
    ∃ read, zOptional (zRecord maximum) field = some read ∧
      Option.Rel Json.Same (read.map .object) ((requests.map knownMembers).map .object) := by
  cases requests with
  | none =>
      cases h
      exact ⟨none, rfl, .none⟩
  | some members =>
      cases h with
      | some hsame =>
          cases hsame with
          | @object sent _ hperm hvalues =>
              have hknown := knownMembers_same (.object hperm hvalues)
              refine ⟨some (knownMembers sent), ?_, .some hknown⟩
              have hkeys := hknown
              cases hkeys with
              | object hperm' _ =>
                  refine (@zRecords_eq_some _ (some sent) _).mpr ⟨rfl, ?_⟩
                  rintro _ ⟨⟩ member hmember
                  obtain ⟨other, hother, hname⟩ := List.mem_map.mp
                    (hperm'.mem_iff.mp (List.mem_map_of_mem (f := Prod.fst) hmember))
                  rw [← hname]
                  exact hbound members rfl other hother

/-! ## Requirements -/

theorem HumanRequirementSchema_same {dates : JsDates} {urls : JsUrls} {json : Json}
    {document result : RequirementDocument} (h : json.Same document.toJson)
    (hkeys : json.DistinctKeys)
    (hread : HumanRequirementSchema dates urls document.toJson = some result) :
    ∃ requests, HumanRequirementSchema dates urls json =
        some { result with providerRequests := requests } ∧
      Option.Rel Json.Same (requests.map .object) (result.providerRequests.map .object) := by
  obtain ⟨field, hfield, hrel⟩ := strictObject_same h hkeys
  have hvalues := (ObjectShape.same_of_strictObject hkeys hfield).2
  have htext : ∀ k text, document.fieldValue k = some (.string text) →
      field k = some (.string text) := fun k text hk => by
    rw [← hk]
    refine rel_eq_of_noObject (hrel k) ?_
    rw [hk]
    rintro _ ⟨⟩
    exact .string text
  obtain ⟨hvalid, uri, audience, huri, haudience, rfl⟩ := HumanRequirementSchema_toJson.mp hread
  obtain ⟨requests, hrequests, hsame⟩ := zRecords_same (hrel .providerRequests)
    hvalid.providerRequests
  refine ⟨requests, ?_, hsame⟩
  have hresource := @resourceSchema_unordered urls _ _ (hrel .resource) (hvalues .resource)
  have hbinding := bindingSchema_same (hrel .binding) (hvalues .binding)
  have haccepts := acceptsSchema_same (hrel .accepts) (hvalues .accepts)
  refine (bind_known hfield).mpr ?_
  rw [htext .x424Version _ rfl, htext .dependencyId _ rfl, htext .purpose _ rfl,
    htext .nonce _ rfl, htext .createdAt _ rfl, htext .expiresAt _ rfl, hresource, hbinding,
    haccepts]
  refine (bind_known (zLiteral_self X424.x424Version)).mpr ?_
  refine (bind_known (zString_eq_some.mpr ⟨rfl, hvalid.dependencyId⟩)).mpr ?_
  refine (bind_known (zString_eq_some.mpr ⟨rfl, hvalid.purpose⟩)).mpr ?_
  refine (bind_known (resourceSchema_toJson.mpr
    ⟨hvalid.resource, uri, audience, huri, haudience, rfl⟩)).mpr ?_
  refine (bind_known (zString_eq_some.mpr ⟨rfl, hvalid.nonce⟩)).mpr ?_
  refine (bind_known ((bindingSchema_toJson document.binding document.binding).mpr
    ⟨rfl, hvalid.binding⟩)).mpr ?_
  refine (bind_known (zMatching_eq_some.mpr ⟨rfl, hvalid.createdAt⟩)).mpr ?_
  refine (bind_known (zMatching_eq_some.mpr ⟨rfl, hvalid.expiresAt⟩)).mpr ?_
  refine (bind_known ((zArray_eq_some methodRequirementSchema_toJson).mpr
    ⟨rfl, hvalid.accepts⟩)).mpr ?_
  exact (bind_known hrequests).mpr rfl

theorem toJson_same {numbers : JsNumbers} {document : RequirementDocument}
    (hsafe : ∀ accepted ∈ document.accepts, accepted.SafeAge)
    {requests : Option (List (JsString × Json))}
    (h : Option.Rel Json.Same (requests.map .object) (document.providerRequests.map .object)) :
    ({ document with providerRequests := requests } : RequirementDocument).toJson.Same
      document.toJson := by
  refine ObjectShape.ofFields_same fun k => ?_
  by_cases hk : k = .providerRequests
  · subst hk
    exact h
  · have hother : RequirementDocument.fieldValue
        { document with providerRequests := requests } k = document.fieldValue k := by
      cases k <;> first | rfl | exact absurd rfl hk
    rw [hother]
    cases hvalue : document.fieldValue k with
    | none => exact .none
    | some value =>
        exact .some (.refl (@RequirementDocument.canonical_fieldValue numbers _ hsafe _ hk _
          hvalue).wellFormed.distinctKeys)

end X424
