import X424.CanonicalLaws

/-!
# Keys in a canonical text

The protocol asks for lexicographically sorted keys.  `normalize` assigns the
members in this order, but an object lists its array indices first and by
value, so that the text has another order when an object holds such keys.
-/

namespace X424

/-- The order of `Array.prototype.sort` on strings, by code units. -/
def unitsLt (a b : JsString) : Prop := a.map UInt16.toNat < b.map UInt16.toNat

instance : DecidableRel unitsLt :=
  fun a b => inferInstanceAs (Decidable (a.map UInt16.toNat < b.map UInt16.toNat))

/-- Each array index among the keys comes before the larger ones and before the
other keys also by its code units. -/
def IndicesFirst (keys : List JsString) : Prop :=
  ∀ a ∈ keys, ∀ index, arrayIndex? a = some index → ∀ b ∈ keys,
    (∀ other, arrayIndex? b = some other → index < other) → unitsLt a b

theorem keyRank_lt_of_indices {a b : JsString} {index : Nat} (ha : arrayIndex? a = some index) :
    keyRank a < keyRank b ↔ ∀ other, arrayIndex? b = some other → index < other := by
  unfold keyRank
  cases hb : arrayIndex? b with
  | none =>
      simp only [ha]
      exact iff_of_true (List.Lex.rel Nat.zero_lt_one) fun other hother => by cases hother
  | some other => simp [ha, List.cons_lt_cons_iff]

theorem unitsLt_of_keyRank_lt {a b : JsString} (ha : arrayIndex? a = none)
    (h : keyRank a < keyRank b) : unitsLt a b := by
  unfold keyRank at h
  cases hb : arrayIndex? b with
  | none => simpa [ha, hb, List.cons_lt_cons_iff, unitsLt] using h
  | some other => simp [ha, hb, List.cons_lt_cons_iff] at h

theorem pairwise_unitsLt_iff {keys : List JsString}
    (hranked : keys.Pairwise fun a b => keyRank a < keyRank b) :
    keys.Pairwise unitsLt ↔ IndicesFirst keys := by
  constructor
  · intro hsorted a ha index hindex b hb hafter
    have hlt : keyRank a < keyRank b := (keyRank_lt_of_indices hindex).mpr hafter
    obtain ⟨i, hi, rfl⟩ := List.mem_iff_getElem.mp ha
    obtain ⟨j, hj, rfl⟩ := List.mem_iff_getElem.mp hb
    rcases Nat.lt_trichotomy i j with hij | rfl | hji
    · exact List.pairwise_iff_getElem.mp hsorted i j hi hj hij
    · exact absurd hlt (lt_irrefl _)
    · exact absurd (hlt.trans (List.pairwise_iff_getElem.mp hranked j i hj hi hji)) (lt_irrefl _)
  · intro hfirst
    refine hranked.imp_of_mem fun {a b} ha hb hlt => ?_
    cases hindex : arrayIndex? a with
    | none => exact unitsLt_of_keyRank_lt hindex hlt
    | some index => exact hfirst a ha index hindex b hb ((keyRank_lt_of_indices hindex).mp hlt)

theorem pairwise_keyRank_ordered {members : List (JsString × Json)}
    (hkeys : (members.map Prod.fst).Nodup) :
    (((orderedMembers members).insertionSort memberLe).map Prod.fst).Pairwise
      fun a b => keyRank a < keyRank b := by
  have hperm := (List.perm_insertionSort memberLe (orderedMembers members)).map Prod.fst
  have hnodup : (((orderedMembers members).insertionSort memberLe).map Prod.fst).Nodup := by
    rw [hperm.nodup_iff, keys_orderedMembers]
    exact hkeys
  have hle : (((orderedMembers members).insertionSort memberLe).map Prod.fst).Pairwise
      fun a b => keyRank a ≤ keyRank b :=
    List.pairwise_map.mpr (List.pairwise_insertionSort memberLe _)
  exact hle.imp₂ (fun a b hle hne => lt_of_le_of_ne hle (keyRank_injective.ne hne)) hnodup

theorem indicesFirst_congr {keys keys' : List JsString} (h : keys.Perm keys') :
    IndicesFirst keys ↔ IndicesFirst keys' := by
  simp only [IndicesFirst, h.mem_iff]

theorem sorted_ordered_iff {value : Json} (h : value.DistinctKeys) :
    value.ordered.EveryObject (List.Pairwise unitsLt) ↔ value.EveryObject IndicesFirst := by
  induction h with
  | null => exact iff_of_true .null .null
  | bool value => exact iff_of_true (.bool value) (.bool value)
  | number value => exact iff_of_true (.number value) (.number value)
  | string value => exact iff_of_true (.string value) (.string value)
  | @array items _ ih =>
      rw [Json.ordered, orderedItems_eq_map, everyObject_array, everyObject_array,
        List.forall_mem_map]
      exact forall₂_congr ih
  | @object members hkeys _ ih =>
      have hperm := List.perm_insertionSort memberLe (orderedMembers members)
      rw [Json.ordered, everyObject_object, everyObject_object,
        pairwise_unitsLt_iff (pairwise_keyRank_ordered hkeys),
        indicesFirst_congr (hperm.map Prod.fst), keys_orderedMembers]
      refine and_congr_right fun _ => ?_
      simp only [hperm.mem_iff]
      rw [orderedMembers_eq_map, List.forall_mem_map]
      exact forall₂_congr ih

/-- The protocol's order holds of a text exactly when, in
every object of the value, the array indices come first by their code units. -/
theorem canonical_keys_sorted_iff {numbers : JsNumbers} {value : Json}
    (h : value.WellFormed numbers) :
    ∃ written, canonicalJson numbers value = stringify numbers written ∧
      jsonParse numbers (canonicalJson numbers value) = some written ∧
      (written.EveryObject (List.Pairwise unitsLt) ↔
        value.withoutProto.EveryObject IndicesFirst) := by
  refine ⟨normalize value, rfl, jsonParse_stringify (wellFormed_normalize h), ?_⟩
  rw [normalize_eq h.distinctKeys]
  exact sorted_ordered_iff (distinctKeys_withoutProto h.distinctKeys)

def nullMembers (keys : List JsString) : Json := .object (keys.map fun key => (key, .null))

theorem wellFormed_nullMembers {numbers : JsNumbers} {keys : List JsString} (h : keys.Nodup) :
    (nullMembers keys).WellFormed numbers := by
  refine .object ?_ fun member hmember => ?_
  · rwa [List.map_map, show (Prod.fst ∘ fun key : JsString => (key, Json.null)) = id from rfl,
      List.map_id]
  · obtain ⟨key, -, rfl⟩ := List.mem_map.mp hmember
    exact .null

theorem canonical_letters_sorted :
    ∃ written, canonicalJson wholeNumbers (nullMembers [js "b", js "a"]) =
        stringify wholeNumbers written ∧
      jsonParse wholeNumbers (canonicalJson wholeNumbers (nullMembers [js "b", js "a"])) =
        some written ∧
      (written.EveryObject (List.Pairwise unitsLt) ↔
        (nullMembers [js "b", js "a"]).withoutProto.EveryObject IndicesFirst) :=
  canonical_keys_sorted_iff (wellFormed_nullMembers (by decide))

/-- `9` is written before `10`. -/
theorem canonical_digits_unsorted :
    (nullMembers [js "10", js "9"]).WellFormed wholeNumbers ∧
      jsonParse wholeNumbers (canonicalJson wholeNumbers (nullMembers [js "10", js "9"])) =
        some (nullMembers [js "9", js "10"]) ∧
      ¬ (nullMembers [js "9", js "10"]).EveryObject (List.Pairwise unitsLt) := by
  have hwell : (nullMembers [js "10", js "9"]).WellFormed wholeNumbers :=
    wellFormed_nullMembers (by decide)
  refine ⟨hwell, jsonParse_stringify (wellFormed_normalize hwell), fun h => ?_⟩
  rw [nullMembers, everyObject_object] at h
  exact absurd h.1 (by decide)

end X424
