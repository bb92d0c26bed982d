import X424.CanonicalLaws
import X424.Schemas.Requirement

/-!
# What a schema has read

A value that `HumanRequirementSchema` accepts is, up to the order of its
members, the JSON of a document: strict schemas leave nothing else in it.
-/

namespace X424

/-! ## Objects -/

theorem Json.Same.refl {value : Json} (h : value.DistinctKeys) : value.Same value :=
  (same_ordered h).trans (same_ordered h).symm

theorem mem_of_lookup {α : Type} {members : List (JsString × α)} {key : JsString} {value : α}
    (h : members.lookup key = some value) : (key, value) ∈ members := by
  obtain ⟨front, back, rfl, -⟩ := List.lookup_eq_some_iff.mp h
  exact List.mem_append_right _ List.mem_cons_self

theorem lookup_of_mem {members : List (JsString × Json)} (hkeys : (members.map Prod.fst).Nodup)
    {member : JsString × Json} (h : member ∈ members) :
    members.lookup member.1 = some member.2 := by
  cases hlookup : members.lookup member.1 with
  | none =>
      rw [List.lookup_eq_none_iff] at hlookup
      have hne : (member.1 != member.1) = true := hlookup member h
      exact absurd rfl (bne_iff_ne.mp hne)
  | some value =>
      have hsame := List.inj_on_of_nodup_map hkeys (mem_of_lookup hlookup) h rfl
      rw [← hsame]

def memberOf (name : JsString) : Json → Option Json
  | .object members => members.lookup name
  | _ => none

theorem lookup_of_mem_keys {members : List (JsString × Json)}
    (hkeys : (members.map Prod.fst).Nodup) {name : JsString} (h : name ∈ members.map Prod.fst) :
    ∃ value, members.lookup name = some value ∧ (name, value) ∈ members := by
  obtain ⟨member, hmember, rfl⟩ := List.mem_map.mp h
  exact ⟨member.2, lookup_of_mem hkeys hmember, hmember⟩

theorem memberOf_same {a b : Json} (h : a.Same b) (hkeys : a.DistinctKeys) (name : JsString) :
    Option.Rel Json.Same (memberOf name a) (memberOf name b) := by
  have hb := h.distinctKeys hkeys
  cases h with
  | null => exact .none
  | bool value => exact .none
  | number value => exact .none
  | string value => exact .none
  | array hlength _ => exact .none
  | @object a b hperm hsame =>
      obtain ⟨hnodup, -⟩ := everyObject_object.mp hkeys
      obtain ⟨hnodup', -⟩ := everyObject_object.mp hb
      simp only [memberOf]
      cases hx : a.lookup name with
      | none =>
          cases hy : b.lookup name with
          | none => exact .none
          | some y =>
              have hmem : name ∈ a.map Prod.fst :=
                hperm.mem_iff.mpr (List.mem_map_of_mem (f := Prod.fst) (mem_of_lookup hy))
              obtain ⟨x, hx', -⟩ := lookup_of_mem_keys hnodup hmem
              cases hx.symm.trans hx'
      | some x =>
          have hmem : name ∈ b.map Prod.fst :=
            hperm.mem_iff.mp (List.mem_map_of_mem (f := Prod.fst) (mem_of_lookup hx))
          obtain ⟨y, hy, hyb⟩ := lookup_of_mem_keys hnodup' hmem
          rw [hy]
          exact .some (hsame _ (mem_of_lookup hx) _ hyb rfl)

theorem memberOf_ofFields {κ : Type} {shape : ObjectShape κ} (values : κ → Option Json) (k : κ) :
    memberOf (shape.name k) (shape.ofFields values) = values k :=
  ObjectShape.lookup_membersOf values k

theorem distinctKeys_memberOf {a b : Json} {name : JsString} (h : memberOf name a = some b)
    (hkeys : a.DistinctKeys) : b.DistinctKeys := by
  cases a with
  | object members => exact (everyObject_object.mp hkeys).2 _ (mem_of_lookup h)
  | null => cases h
  | bool value => cases h
  | number value => cases h
  | string value => cases h
  | array items => cases h

theorem strictObject_memberOf {κ : Type} {shape : ObjectShape κ} {json : Json}
    {field : κ → Option Json} (h : shape.strictObject json = some field) (k : κ) :
    field k = memberOf (shape.name k) json := by
  cases json with
  | object members =>
      simp only [ObjectShape.strictObject, Option.ite_none_right_eq_some, Option.some.injEq] at h
      rw [← h.2, memberOf]
  | null => cases h
  | bool value => cases h
  | number value => cases h
  | string value => cases h
  | array items => cases h

namespace ObjectShape

variable {κ : Type} {shape : ObjectShape κ}

theorem nodup_membersOf (values : κ → Option Json) :
    ((shape.membersOf values).map Prod.fst).Nodup := by
  rw [List.nodup_iff_pairwise_ne, List.pairwise_map]
  exact (pairwise_membersOf values).imp fun hlt heq => absurd (heq ▸ hlt) (lt_irrefl _)

theorem same_of_strictObject {json : Json} {field : κ → Option Json} (hkeys : json.DistinctKeys)
    (h : shape.strictObject json = some field) :
    json.Same (shape.ofFields field) ∧ ∀ k, ∀ value ∈ field k, value.DistinctKeys := by
  cases json with
  | object members =>
      obtain ⟨hnodup, hvalues⟩ := everyObject_object.mp hkeys
      simp only [strictObject, Option.ite_none_right_eq_some, Option.some.injEq] at h
      obtain ⟨hknown, rfl⟩ := h
      have hname : ∀ member ∈ members, ∃ k, shape.name k = member.1 := fun member hmember => by
        obtain ⟨k, -, hk⟩ := List.any_eq_true.mp (List.all_eq_true.mp hknown member hmember)
        exact ⟨k, beq_iff_eq.mp hk⟩
      refine ⟨.object ?_ fun x hx y hy hkey => ?_, fun k value hvalue =>
        hvalues _ (mem_of_lookup hvalue)⟩
      · rw [List.perm_ext_iff_of_nodup hnodup (nodup_membersOf _)]
        intro key
        simp only [List.mem_map]
        constructor
        · rintro ⟨member, hmember, rfl⟩
          obtain ⟨k, hk⟩ := hname member hmember
          exact ⟨member, mem_membersOf.mpr ⟨k, by rw [hk, lookup_of_mem hnodup hmember], hk.symm⟩,
            rfl⟩
        · rintro ⟨member, hmember, rfl⟩
          obtain ⟨k, hlookup, hk⟩ := mem_membersOf.mp hmember
          exact ⟨_, mem_of_lookup hlookup, hk.symm⟩
      · obtain ⟨k, hlookup, hk⟩ := mem_membersOf.mp hy
        rw [← hk, ← hkey, lookup_of_mem hnodup hx, Option.some.injEq] at hlookup
        rw [← hlookup]
        exact .refl (hvalues x hx)
  | null => cases h
  | bool value => cases h
  | number value => cases h
  | string value => cases h
  | array items => cases h

theorem ofFields_same {f g : κ → Option Json} (h : ∀ k, Option.Rel Json.Same (f k) (g k)) :
    (shape.ofFields f).Same (shape.ofFields g) := by
  refine .object (List.Perm.of_eq ?_) fun x hx y hy hkey => ?_
  · simp only [membersOf, List.map_filterMap]
    refine List.filterMap_congr fun k _ => ?_
    have hrel := h k
    generalize f k = a at hrel
    generalize g k = b at hrel
    cases hrel <;> rfl
  · obtain ⟨k, hf, hk⟩ := mem_membersOf.mp hx
    obtain ⟨k', hg, hk'⟩ := mem_membersOf.mp hy
    have hsame : k = k' := name_injective (hk.symm.trans (hkey.trans hk'))
    subst hsame
    have hrel := h k
    rw [hf, hg] at hrel
    cases hrel with
    | some hsame => exact hsame

end ObjectShape

/-! ## Checks -/

section Checks

variable {α : Type}

/-- The check accepts only what is written, up to the order of members, for a
value with the property `P`. -/
def Reads (check : Option Json → Option α) (write : α → Json) (P : α → Prop) : Prop :=
  ∀ ⦃field value⦄, (∀ json ∈ field, json.DistinctKeys) → check field = some value →
    Option.Rel Json.Same field (some (write value)) ∧ P value

theorem zString_spec {minimum maximum : Nat} {field : Option Json} {text : JsString}
    (h : zString minimum maximum field = some text) :
    field = some (.string text) ∧ BoundedText minimum maximum text := by
  unfold zString at h
  split at h
  · simp only [Option.ite_none_right_eq_some, Option.some.injEq] at h
    obtain ⟨hbounds, rfl⟩ := h
    exact ⟨rfl, hbounds⟩
  · cases h

theorem reads_zString {minimum maximum : Nat} :
    Reads (zString minimum maximum) .string (BoundedText minimum maximum) := by
  intro field value _ h
  obtain ⟨rfl, hbounds⟩ := zString_spec h
  exact ⟨.some (.string _), hbounds⟩

theorem reads_zMatching {test : JsString → Bool} :
    Reads (zMatching test) .string fun text => test text = true := by
  intro field value _ h
  unfold zMatching at h
  split at h
  · simp only [Option.ite_none_right_eq_some, Option.some.injEq] at h
    obtain ⟨htest, rfl⟩ := h
    exact ⟨.some (.string _), htest⟩
  · cases h

theorem reads_zLiteral {literal : JsString} :
    Reads (zLiteral literal) (fun _ => .string literal) fun _ => True := by
  intro field value _ h
  unfold zLiteral at h
  split at h
  · simp only [Option.ite_none_right_eq_some] at h
    rw [h.1]
    exact ⟨.some (.string literal), trivial⟩
  · cases h

theorem reads_zEnum {name : α → JsString} {alternatives : List α} :
    Reads (zEnum name alternatives) (fun value => .string (name value)) fun _ => True := by
  intro field value _ h
  unfold zEnum at h
  split at h
  · have hname := List.find?_some h
    rw [← beq_iff_eq.mp hname]
    exact ⟨.some (.string _), trivial⟩
  · cases h

theorem reads_zPositiveInt {maximum : Nat} :
    Reads (zPositiveInt maximum) (fun n : Nat => .number n) fun n => 0 < n ∧ n ≤ maximum := by
  intro field value _ h
  unfold zPositiveInt at h
  split at h
  · rename_i q _
    simp only [Option.ite_none_right_eq_some, Option.some.injEq] at h
    obtain ⟨⟨hden, hpos, hmaximum⟩, rfl⟩ := h
    have hvalue : ((q.num.toNat : Nat) : ℚ) = q := by
      have hnum : ((q.num.toNat : Nat) : Int) = q.num := Int.toNat_of_nonneg hpos.le
      rw [← Int.cast_natCast, hnum]
      exact Rat.coe_int_num_of_den_eq_one hden
    refine ⟨?_, by omega⟩
    show Option.Rel Json.Same (some (.number q)) (some (.number (q.num.toNat : Nat)))
    rw [hvalue]
    exact .some (.number q)
  · cases h

theorem same_of_mapM {item : Option Json → Option α} {write : α → Json} {P : α → Prop}
    (hitem : Reads item write P) {items : List Json} {values : List α}
    (hkeys : ∀ json ∈ items, json.DistinctKeys)
    (h : items.mapM (fun json => item (some json)) = some values) :
    List.Forall₂ Json.Same items (values.map write) ∧ ∀ value ∈ values, P value := by
  induction items generalizing values with
  | nil =>
      cases h
      exact ⟨.nil, List.forall_mem_nil _⟩
  | cons json items ih =>
      obtain ⟨hjson, hitems⟩ := List.forall_mem_cons.mp hkeys
      simp only [List.mapM_cons, Option.bind_eq_bind, Option.bind_eq_some_iff, Option.pure_def,
        Option.some.injEq] at h
      obtain ⟨value, hvalue, values, hvalues, rfl⟩ := h
      obtain ⟨hrel, hP⟩ := hitem (fun other hother => Option.some.inj hother ▸ hjson) hvalue
      obtain ⟨hrest, hPs⟩ := ih hitems hvalues
      cases hrel with
      | some hsame => exact ⟨.cons hsame hrest, List.forall_mem_cons.mpr ⟨hP, hPs⟩⟩

theorem reads_zArray {item : Option Json → Option α} {write : α → Json} {P : α → Prop}
    (hitem : Reads item write P) {minimum maximum : Nat} :
    Reads (zArray item minimum maximum) (fun values => .array (values.map write)) fun values =>
      (minimum ≤ values.length ∧ values.length ≤ maximum) ∧ ∀ value ∈ values, P value := by
  intro field values hkeys h
  unfold zArray at h
  split at h
  · rename_i items
    simp only [Option.ite_none_right_eq_some] at h
    obtain ⟨hrel, hP⟩ := same_of_mapM hitem (everyObject_array.mp (hkeys _ rfl)) h.2
    obtain ⟨hlength, hsame⟩ := List.forall₂_iff_zip.mp hrel
    rw [List.length_map] at hlength
    exact ⟨.some (.array (by rwa [List.length_map]) fun p hp => hsame hp), hlength ▸ h.1, hP⟩
  · cases h

theorem reads_zOptional {check : Option Json → Option α} {write : α → Json} {P : α → Prop}
    (hcheck : Reads check write P) {field : Option Json} {value : Option α}
    (hkeys : ∀ json ∈ field, json.DistinctKeys) (h : zOptional check field = some value) :
    Option.Rel Json.Same field (value.map write) ∧ ∀ read ∈ value, P read := by
  cases field with
  | none =>
      cases h
      exact ⟨.none, nofun⟩
  | some json =>
      obtain ⟨read, hread, rfl⟩ := Option.map_eq_some_iff.mp h
      obtain ⟨hrel, hP⟩ := hcheck hkeys hread
      exact ⟨hrel, fun other hother => Option.some.inj hother ▸ hP⟩

theorem zUrl_spec {urls : JsUrls} {maximum : Nat} {field : Option Json} {url : JsString}
    (h : zUrl urls maximum field = some url) :
    ∃ text, field = some (.string text) ∧ urls.check text = some url ∧ url.length ≤ maximum := by
  unfold zUrl at h
  split at h
  · rename_i text
    exact ⟨text, rfl, by simpa [Option.filter_eq_some_iff] using h⟩
  · cases h

/-- The members before those named `__proto__` are dropped. -/
theorem zRecords_spec {maximum : Nat} {field : Option Json}
    {requests : Option (List (JsString × Json))} (hkeys : ∀ json ∈ field, json.DistinctKeys)
    (h : zOptional (zRecord maximum) field = some requests) :
    ∃ sent : Option (List (JsString × Json)), Option.Rel Json.Same field (sent.map .object) ∧
      requests = sent.map knownMembers ∧
      ∀ members ∈ sent, ∀ member ∈ knownMembers members, member.1.length ≤ maximum := by
  cases field with
  | none =>
      cases h
      exact ⟨none, .none, rfl, nofun⟩
  | some json =>
      obtain ⟨members, hmembers, rfl⟩ := Option.map_eq_some_iff.mp h
      unfold zRecord at hmembers
      split at hmembers
      · rename_i sent hsent
        cases hsent
        simp only [Option.ite_none_right_eq_some, Option.some.injEq, List.all_eq_true,
          decide_eq_true_eq] at hmembers
        obtain ⟨hlength, rfl⟩ := hmembers
        exact ⟨some sent, .some (.refl (hkeys _ rfl)), rfl,
          fun other hother => Option.some.inj hother ▸ hlength⟩
      · cases hmembers

end Checks

/-! ## Requirements -/

theorem reads_bindingSchema :
    Reads bindingSchema HumanBinding.toJson fun binding => BoundedText 1 512 binding.value := by
  intro json binding hkeys h
  cases json with
  | none => cases h
  | some json =>
      obtain ⟨field, hfield, h⟩ := Option.bind_eq_some_iff.mp h
      obtain ⟨hsame, hvalues⟩ := ObjectShape.same_of_strictObject (hkeys _ rfl) hfield
      obtain ⟨kind, hkind, h⟩ := Option.bind_eq_some_iff.mp h
      obtain ⟨value, hvalue, h⟩ := Option.bind_eq_some_iff.mp h
      cases h
      refine ⟨.some (hsame.trans (ObjectShape.ofFields_same fun k => ?_)),
        (reads_zString (hvalues _) hvalue).2⟩
      cases k with
      | kind => exact (reads_zEnum (hvalues _) hkind).1
      | value => exact (reads_zString (hvalues _) hvalue).1

theorem reads_methodRequirementSchema :
    Reads methodRequirementSchema HumanMethodRequirement.toJson
      HumanMethodRequirement.Accepted := by
  intro json accepted hkeys h
  cases json with
  | none => cases h
  | some json =>
      obtain ⟨field, hfield, h⟩ := Option.bind_eq_some_iff.mp h
      obtain ⟨hsame, hvalues⟩ := ObjectShape.same_of_strictObject (hkeys _ rfl) hfield
      obtain ⟨providerId, hprovider, h⟩ := Option.bind_eq_some_iff.mp h
      obtain ⟨methodId, hmethod, h⟩ := Option.bind_eq_some_iff.mp h
      obtain ⟨descriptorVersion, hversion, h⟩ := Option.bind_eq_some_iff.mp h
      obtain ⟨assuranceLevel, hlevel, h⟩ := Option.bind_eq_some_iff.mp h
      obtain ⟨kinds, hkinds, h⟩ := Option.bind_eq_some_iff.mp h
      obtain ⟨seconds, hseconds, h⟩ := Option.bind_eq_some_iff.mp h
      obtain ⟨modes, hmodes, h⟩ := Option.bind_eq_some_iff.mp h
      cases h
      have hprovider := reads_zMatching (hvalues _) hprovider
      have hmethod := reads_zMatching (hvalues _) hmethod
      have hversion := reads_zString (hvalues _) hversion
      have hlevel := reads_zOptional reads_zString (hvalues _) hlevel
      have hkinds := reads_zArray reads_zEnum (hvalues _) hkinds
      have hseconds := reads_zOptional reads_zPositiveInt (hvalues _) hseconds
      have hmodes := reads_zOptional (reads_zArray reads_zEnum) (hvalues _) hmodes
      refine ⟨.some (hsame.trans (ObjectShape.ofFields_same fun k => ?_)), ⟨hprovider.2, hmethod.2,
        hversion.2, hlevel.2, hkinds.2.1, hseconds.2, fun modes hmem => (hmodes.2 modes hmem).1⟩⟩
      cases k with
      | acceptedScopeKinds => exact hkinds.1
      | assuranceLevel => exact hlevel.1
      | descriptorVersion => exact hversion.1
      | maximumProofAgeSeconds => exact hseconds.1
      | methodId => exact hmethod.1
      | providerId => exact hprovider.1
      | verificationModes => exact hmodes.1

theorem resourceSchema_same {urls : JsUrls} {json : Option Json} {resource : ProtectedResource}
    (hkeys : ∀ value ∈ json, value.DistinctKeys) (h : resourceSchema urls json = some resource) :
    ∃ sent : ProtectedResource, Option.Rel Json.Same json (some sent.toJson) ∧
      resourceSchema urls (some sent.toJson) = some resource := by
  cases json with
  | none => cases h
  | some json =>
      obtain ⟨field, hfield, h⟩ := Option.bind_eq_some_iff.mp h
      obtain ⟨hsame, hvalues⟩ := ObjectShape.same_of_strictObject (hkeys _ rfl) hfield
      obtain ⟨method, hmethod, h⟩ := Option.bind_eq_some_iff.mp h
      obtain ⟨uri, huri, h⟩ := Option.bind_eq_some_iff.mp h
      obtain ⟨audience, haudience, h⟩ := Option.bind_eq_some_iff.mp h
      obtain ⟨digest, hdigest, h⟩ := Option.bind_eq_some_iff.mp h
      cases h
      have hmethod := reads_zString (hvalues _) hmethod
      have hdigest := reads_zMatching (hvalues _) hdigest
      obtain ⟨sentUri, hsentUri, huri⟩ := zUrl_spec huri
      obtain ⟨sentAudience, hsentAudience, haudience⟩ := zUrl_spec haudience
      refine ⟨⟨method, sentUri, sentAudience, digest⟩,
        .some (hsame.trans (ObjectShape.ofFields_same fun k => ?_)),
        resourceSchema_toJson.mpr ⟨⟨hmethod.2, hdigest.2⟩, uri, audience, huri, haudience, rfl⟩⟩
      cases k with
      | audience =>
          rw [hsentAudience]
          exact .some (.string sentAudience)
      | method => exact hmethod.1
      | requestDigest => exact hdigest.1
      | uri =>
          rw [hsentUri]
          exact .some (.string sentUri)

theorem exists_document {dates : JsDates} {urls : JsUrls} {json : Json}
    {result : RequirementDocument} (hkeys : json.DistinctKeys)
    (h : HumanRequirementSchema dates urls json = some result) :
    ∃ document : RequirementDocument, json.Same document.toJson ∧
      HumanRequirementSchema dates urls document.toJson = some result := by
  obtain ⟨field, hfield, h⟩ := Option.bind_eq_some_iff.mp h
  obtain ⟨hsame, hvalues⟩ := ObjectShape.same_of_strictObject hkeys hfield
  obtain ⟨_, hversion, h⟩ := Option.bind_eq_some_iff.mp h
  obtain ⟨dependencyId, hdependencyId, h⟩ := Option.bind_eq_some_iff.mp h
  obtain ⟨purpose, hpurpose, h⟩ := Option.bind_eq_some_iff.mp h
  obtain ⟨resource, hresource, h⟩ := Option.bind_eq_some_iff.mp h
  obtain ⟨nonce, hnonce, h⟩ := Option.bind_eq_some_iff.mp h
  obtain ⟨binding, hbinding, h⟩ := Option.bind_eq_some_iff.mp h
  obtain ⟨createdAt, hcreatedAt, h⟩ := Option.bind_eq_some_iff.mp h
  obtain ⟨expiresAt, hexpiresAt, h⟩ := Option.bind_eq_some_iff.mp h
  obtain ⟨accepts, haccepts, h⟩ := Option.bind_eq_some_iff.mp h
  obtain ⟨requests, hrequests, h⟩ := Option.bind_eq_some_iff.mp h
  cases h
  have hversion := reads_zLiteral (hvalues _) hversion
  have hdependencyId := reads_zString (hvalues _) hdependencyId
  have hpurpose := reads_zString (hvalues _) hpurpose
  obtain ⟨sent, hsent, hresource⟩ := resourceSchema_same (hvalues _) hresource
  obtain ⟨hvalid, uri, audience, huri, haudience, rfl⟩ := resourceSchema_toJson.mp hresource
  have hnonce := reads_zString (hvalues _) hnonce
  have hbinding := reads_bindingSchema (hvalues _) hbinding
  have hcreatedAt := reads_zMatching (hvalues _) hcreatedAt
  have hexpiresAt := reads_zMatching (hvalues _) hexpiresAt
  have haccepts := reads_zArray reads_methodRequirementSchema (hvalues _) haccepts
  obtain ⟨sentRequests, hsentRequests, rfl, hmembers⟩ := zRecords_spec (hvalues _) hrequests
  refine ⟨⟨dependencyId, purpose, sent, nonce, binding, createdAt, expiresAt, accepts,
      sentRequests⟩, hsame.trans (ObjectShape.ofFields_same fun k => ?_),
    HumanRequirementSchema_toJson.mpr ⟨⟨hdependencyId.2, hpurpose.2, hvalid, hnonce.2, hbinding.2,
      hcreatedAt.2, hexpiresAt.2, haccepts.2, hmembers⟩, uri, audience, huri, haudience, rfl⟩⟩
  cases k with
  | accepts => exact haccepts.1
  | binding => exact hbinding.1
  | createdAt => exact hcreatedAt.1
  | dependencyId => exact hdependencyId.1
  | expiresAt => exact hexpiresAt.1
  | nonce => exact hnonce.1
  | providerRequests => exact hsentRequests
  | purpose => exact hpurpose.1
  | resource => exact hsent
  | x424Version => exact hversion.1

end X424
