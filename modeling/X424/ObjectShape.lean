import Mathlib.Data.List.Pairwise
import X424.CanonicalJson

/-!
# Objects with known members

A strict object schema knows its members by an enumeration.  The enumeration
is listed in canonical order, so that an object written from it is canonical.
-/

namespace X424

structure ObjectShape (κ : Type) where
  fields : List κ
  name : κ → JsString
  complete : ∀ k, k ∈ fields
  sorted : fields.Pairwise fun j k => keyRank (name j) < keyRank (name k)
  name_ne_proto : ∀ k, name k ≠ protoKey

namespace ObjectShape

variable {κ : Type} (shape : ObjectShape κ)

def membersOf (values : κ → Option Json) : List (JsString × Json) :=
  shape.fields.filterMap fun k => (values k).map fun value => (shape.name k, value)

def ofFields (values : κ → Option Json) : Json := .object (shape.membersOf values)

/-- `z.object({ … }).strict()` up to the checks of the members. -/
def strictObject : Json → Option (κ → Option Json)
  | .object members =>
      if members.all fun member => shape.fields.any fun k => shape.name k == member.1 then
        some fun k => members.lookup (shape.name k)
      else none
  | _ => none

variable {shape}

theorem name_injective {j k : κ} (h : shape.name j = shape.name k) : j = k := by
  have : Std.Symm fun j k => shape.name j ≠ shape.name k := ⟨fun _ _ hne => hne.symm⟩
  by_contra hne
  have hdistinct : shape.fields.Pairwise fun j k => shape.name j ≠ shape.name k :=
    shape.sorted.imp fun hlt heq => absurd (heq ▸ hlt) (lt_irrefl _)
  exact hdistinct.forall (shape.complete j) (shape.complete k) hne h

theorem mem_membersOf {values : κ → Option Json} {member : JsString × Json} :
    member ∈ shape.membersOf values ↔
      ∃ k, values k = some member.2 ∧ member.1 = shape.name k := by
  simp only [membersOf, List.mem_filterMap, Option.map_eq_some_iff]
  constructor
  · rintro ⟨k, _, value, hvalue, rfl⟩
    exact ⟨k, hvalue, rfl⟩
  · rintro ⟨k, hvalue, hname⟩
    exact ⟨k, shape.complete k, member.2, hvalue, Prod.ext hname.symm rfl⟩

theorem lookup_membersOf (values : κ → Option Json) (k : κ) :
    (shape.membersOf values).lookup (shape.name k) = values k := by
  classical
  have hlookup : ∀ ks : List κ,
      (ks.filterMap fun j => (values j).map fun value => (shape.name j, value)).lookup
        (shape.name k) = if k ∈ ks then values k else none := by
    intro ks
    induction ks with
    | nil => simp
    | cons j ks ih =>
        by_cases hj : k = j
        · subst hj
          cases hvalue : values k with
          | none => simp [hvalue, ih]
          | some value => simp [hvalue]
        · have hname : (shape.name k == shape.name j) = false :=
            beq_false_of_ne fun h => hj (name_injective h)
          cases hvalue : values j with
          | none => simp [hvalue, ih, hj]
          | some value => simp [hvalue, List.lookup_cons, hname, ih, hj]
  rw [membersOf, hlookup, if_pos (shape.complete k)]

theorem strictObject_ofFields (values : κ → Option Json) :
    shape.strictObject (shape.ofFields values) = some values := by
  have hknown : (shape.membersOf values).all
      (fun member => shape.fields.any fun k => shape.name k == member.1) = true := by
    refine List.all_eq_true.mpr fun member hmember => ?_
    obtain ⟨k, -, hname⟩ := mem_membersOf.mp hmember
    exact List.any_eq_true.mpr ⟨k, shape.complete k, by rw [hname, beq_self_eq_true]⟩
  simp only [ofFields, strictObject, hknown, if_true, Option.some.injEq]
  exact funext fun k => lookup_membersOf values k

theorem pairwise_membersOf (values : κ → Option Json) :
    (shape.membersOf values).Pairwise fun a b => keyRank a.1 < keyRank b.1 := by
  refine shape.sorted.filterMap _ fun j k hlt a ha b hb => ?_
  simp only [Option.map_eq_some_iff] at ha hb
  obtain ⟨_, _, rfl⟩ := ha
  obtain ⟨_, _, rfl⟩ := hb
  exact hlt

theorem wellFormed_ofFields {numbers : JsNumbers} {values : κ → Option Json}
    (h : ∀ k value, values k = some value → value.WellFormed numbers) :
    (shape.ofFields values).WellFormed numbers := by
  refine .object ?_ fun member hmember => ?_
  · rw [List.nodup_iff_pairwise_ne, List.pairwise_map]
    exact (pairwise_membersOf values).imp fun hlt heq => absurd (heq ▸ hlt) (lt_irrefl _)
  · obtain ⟨k, hvalue, -⟩ := mem_membersOf.mp hmember
    exact h k member.2 hvalue

theorem normalize_ofFields {values : κ → Option Json}
    (h : ∀ k value, values k = some value → normalize value = value) :
    normalize (shape.ofFields values) = shape.ofFields values := by
  have hsame : normalizeMembers (shape.membersOf values) = shape.membersOf values := by
    rw [normalizeMembers_eq_map, List.filter_eq_self.mpr fun member hmember => ?_]
    · refine (List.map_congr_left (g := id) fun member hmember => ?_).trans (List.map_id _)
      obtain ⟨k, hvalue, -⟩ := mem_membersOf.mp hmember
      exact Prod.ext rfl (h k member.2 hvalue)
    · obtain ⟨k, -, hname⟩ := mem_membersOf.mp hmember
      rw [hname]
      exact decide_eq_true (shape.name_ne_proto k)
  simp only [ofFields, normalize, Json.object.injEq, hsame]
  exact ((pairwise_membersOf values).imp fun hlt => le_of_lt hlt).insertionSort_eq

end ObjectShape

/-! ## Canonical values -/

structure Json.Canonical (numbers : JsNumbers) (value : Json) : Prop where
  wellFormed : value.WellFormed numbers
  normalized : normalize value = value

section Canonical

variable {numbers : JsNumbers}

theorem canonical_string (text : JsString) : (Json.string text).Canonical numbers :=
  ⟨.string text, rfl⟩

theorem canonical_texts (texts : List JsString) :
    (Json.array (texts.map .string)).Canonical numbers := by
  refine ⟨.array fun item hitem => ?_, ?_⟩
  · obtain ⟨text, -, rfl⟩ := List.mem_map.mp hitem
    exact .string text
  · simp only [normalize, normalizeItems_eq_map, List.map_map]
    rfl

theorem canonical_ofFields {κ : Type} {shape : ObjectShape κ} {values : κ → Option Json}
    (h : ∀ k value, values k = some value → value.Canonical numbers) :
    (shape.ofFields values).Canonical numbers :=
  ⟨ObjectShape.wellFormed_ofFields fun k value hvalue => (h k value hvalue).wellFormed,
    ObjectShape.normalize_ofFields fun k value hvalue => (h k value hvalue).normalized⟩

theorem parse_canonical {value : Json} (h : value.Canonical numbers) (label : JsString) :
    parseCanonicalJsonBytes numbers (utf8 (canonicalJson numbers value)) label = .ok value := by
  rw [parseCanonicalJsonBytes_canonicalJson h.wellFormed, h.normalized]

end Canonical

end X424
