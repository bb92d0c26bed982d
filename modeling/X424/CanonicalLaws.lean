import Mathlib.Data.Nat.Digits.Lemmas
import X424.CanonicalJson

/-!
# Laws of canonical JSON

Two values are the same JSON value when they differ only in the order of
members.  `canonicalJson` tells values apart up to this order and up to the
members named `__proto__`, which it drops.
-/

namespace X424

/-! ## Ranks of keys -/

private theorem foldl_digits (key : JsString) (start : Nat) :
    key.foldl (fun n u => 10 * n + (u.toNat - 0x30)) start =
      Nat.ofDigits 10 ((key.map fun u => u.toNat - 0x30).reverse) + 10 ^ key.length * start := by
  induction key generalizing start with
  | nil => simp
  | cons u key ih =>
      rw [List.foldl_cons, ih, List.map_cons, List.reverse_cons, Nat.ofDigits_append,
        Nat.ofDigits_singleton, List.length_reverse, List.length_map, List.length_cons, pow_succ]
      ring

private theorem digit_spec {u : UInt16} (h : (0x30 ≤ u && u ≤ 0x39) = true) :
    0x30 ≤ u.toNat ∧ u.toNat ≤ 0x39 := by
  simpa only [Bool.and_eq_true, decide_eq_true_eq, UInt16.le_iff_toNat_le, UInt16.reduceToNat]
    using h

theorem eq_of_arrayIndex? {key : JsString} {index : Nat} (h : arrayIndex? key = some index) :
    key = (decimalDigits index).map fun digit => UInt16.ofNat (0x30 + digit) := by
  simp only [arrayIndex?, Option.ite_none_right_eq_some, Option.some.injEq] at h
  obtain ⟨⟨hne, hdigits, hzero, -⟩, hvalue⟩ := h
  have hunits : ∀ u ∈ key, 0x30 ≤ u.toNat ∧ u.toNat ≤ 0x39 := fun u hu =>
    digit_spec (List.all_eq_true.mp hdigits u hu)
  rw [foldl_digits, mul_zero, add_zero] at hvalue
  have hback : (key.map fun u => u.toNat - 0x30).map (fun digit => UInt16.ofNat (0x30 + digit)) =
      key := by
    rw [List.map_map]
    refine (List.map_congr_left (g := id) fun u hu => ?_).trans (List.map_id _)
    simp only [Function.comp_apply, id_eq]
    rw [Nat.add_sub_cancel' (hunits u hu).1, UInt16.ofNat_toNat]
  suffices decimalDigits index = key.map fun u => u.toNat - 0x30 by rw [this, hback]
  obtain ⟨u, rest, rfl⟩ := List.exists_cons_of_ne_nil hne
  by_cases hu : u = 0x30
  · subst hu
    have hrest : rest = [] := by simpa using hzero
    subst hrest
    subst hvalue
    rfl
  · have hhead : u.toNat - 0x30 ≠ 0 := by
      have hbound := (hunits u (List.mem_cons_self ..)).1
      have hother : u.toNat ≠ 0x30 := fun heq => hu (UInt16.toNat_inj.mp heq)
      omega
    have hread : Nat.digits 10 index = ((u :: rest).map fun v => v.toNat - 0x30).reverse := by
      rw [← hvalue]
      refine Nat.digits_ofDigits 10 (by decide) _ (fun digit hdigit => ?_) fun _ => ?_
      · obtain ⟨v, hv, rfl⟩ := List.mem_map.mp (List.mem_reverse.mp hdigit)
        have hbound := (hunits v hv).2
        omega
      · simpa using hhead
    have hpos : index ≠ 0 := by
      rintro rfl
      simp at hread
    rw [decimalDigits, if_neg hpos, hread, List.reverse_reverse]

theorem keyRank_injective : Function.Injective keyRank := by
  intro a b h
  unfold keyRank at h
  cases ha : arrayIndex? a with
  | some index =>
      cases hb : arrayIndex? b with
      | some other =>
          simp only [ha, hb, List.cons.injEq, and_true, true_and] at h
          subst h
          rw [eq_of_arrayIndex? ha, eq_of_arrayIndex? hb]
      | none => simp [ha, hb] at h
  | none =>
      cases hb : arrayIndex? b with
      | some index => simp [ha, hb] at h
      | none =>
          simp only [ha, hb, List.cons.injEq, true_and] at h
          exact List.map_injective_iff.mpr (fun u v => UInt16.toNat_inj.mp) h

theorem eq_of_perm_of_sorted {a b : List (JsString × Json)} (hkeys : (a.map Prod.fst).Nodup)
    (ha : a.Pairwise memberLe) (hb : b.Pairwise memberLe) (h : a.Perm b) : a = b := by
  refine h.eq_of_pairwise (fun x y hx hy hxy hyx => ?_) ha hb
  have hkey : x.1 = y.1 := keyRank_injective (le_antisymm hxy hyx)
  exact List.inj_on_of_nodup_map hkeys hx (h.mem_iff.mpr hy) hkey

/-! ## Objects at every depth -/

inductive Json.EveryObject (P : List JsString → Prop) : Json → Prop
  | null : EveryObject P .null
  | bool (value : Bool) : EveryObject P (.bool value)
  | number (value : ℚ) : EveryObject P (.number value)
  | string (value : JsString) : EveryObject P (.string value)
  | array {items : List Json} (h : ∀ item ∈ items, EveryObject P item) :
      EveryObject P (.array items)
  | object {members : List (JsString × Json)} (hkeys : P (members.map Prod.fst))
      (h : ∀ member ∈ members, EveryObject P member.2) : EveryObject P (.object members)

abbrev Json.DistinctKeys : Json → Prop := Json.EveryObject List.Nodup

/-- No member named `__proto__` anywhere. -/
abbrev Json.ProtoFree : Json → Prop := Json.EveryObject fun keys => protoKey ∉ keys

theorem everyObject_array {P : List JsString → Prop} {items : List Json} :
    (Json.array items).EveryObject P ↔ ∀ item ∈ items, item.EveryObject P :=
  ⟨fun h => by cases h with | array h => exact h, .array⟩

theorem everyObject_object {P : List JsString → Prop} {members : List (JsString × Json)} :
    (Json.object members).EveryObject P ↔
      P (members.map Prod.fst) ∧ ∀ member ∈ members, member.2.EveryObject P :=
  ⟨fun h => by cases h with | object hkeys h => exact ⟨hkeys, h⟩, fun h => .object h.1 h.2⟩

theorem Json.WellFormed.distinctKeys {numbers : JsNumbers} {value : Json}
    (h : value.WellFormed numbers) : value.DistinctKeys := by
  induction h with
  | null => exact .null
  | bool value => exact .bool value
  | number h => exact .number _
  | string value => exact .string value
  | array _ ih => exact .array ih
  | object hkeys _ ih => exact .object hkeys ih

/-! ## Equal values -/

/-- Equality of JSON values: the order of the members does not count. -/
inductive Json.Same : Json → Json → Prop
  | null : Same .null .null
  | bool (value : Bool) : Same (.bool value) (.bool value)
  | number (value : ℚ) : Same (.number value) (.number value)
  | string (value : JsString) : Same (.string value) (.string value)
  | array {a b : List Json} (hlength : a.length = b.length)
      (h : ∀ p ∈ a.zip b, Same p.1 p.2) : Same (.array a) (.array b)
  | object {a b : List (JsString × Json)} (hkeys : (a.map Prod.fst).Perm (b.map Prod.fst))
      (h : ∀ x ∈ a, ∀ y ∈ b, x.1 = y.1 → Same x.2 y.2) : Same (.object a) (.object b)

mutual

def Json.ordered : Json → Json
  | .array items => .array (orderedItems items)
  | .object members => .object ((orderedMembers members).insertionSort memberLe)
  | .null => .null
  | .bool value => .bool value
  | .number value => .number value
  | .string value => .string value

def orderedItems : List Json → List Json
  | [] => []
  | item :: items => item.ordered :: orderedItems items

def orderedMembers : List (JsString × Json) → List (JsString × Json)
  | [] => []
  | (key, value) :: members => (key, value.ordered) :: orderedMembers members

end

mutual

/-- Every member named `__proto__` left out. -/
def Json.withoutProto : Json → Json
  | .array items => .array (itemsWithoutProto items)
  | .object members => .object (membersWithoutProto members)
  | .null => .null
  | .bool value => .bool value
  | .number value => .number value
  | .string value => .string value

def itemsWithoutProto : List Json → List Json
  | [] => []
  | item :: items => item.withoutProto :: itemsWithoutProto items

def membersWithoutProto : List (JsString × Json) → List (JsString × Json)
  | [] => []
  | (key, value) :: members =>
      if key = protoKey then membersWithoutProto members
      else (key, value.withoutProto) :: membersWithoutProto members

end

theorem orderedItems_eq_map (items : List Json) : orderedItems items = items.map Json.ordered := by
  induction items with
  | nil => rfl
  | cons item items ih => rw [orderedItems, ih, List.map_cons]

theorem orderedMembers_eq_map (members : List (JsString × Json)) :
    orderedMembers members = members.map fun member => (member.1, member.2.ordered) := by
  induction members with
  | nil => rfl
  | cons member members ih => rw [orderedMembers, ih, List.map_cons]

theorem itemsWithoutProto_eq_map (items : List Json) :
    itemsWithoutProto items = items.map Json.withoutProto := by
  induction items with
  | nil => rfl
  | cons item items ih => rw [itemsWithoutProto, ih, List.map_cons]

theorem membersWithoutProto_eq_map (members : List (JsString × Json)) :
    membersWithoutProto members =
      (members.filter fun member => member.1 ≠ protoKey).map
        fun member => (member.1, member.2.withoutProto) := by
  induction members with
  | nil => rfl
  | cons member members ih =>
      obtain ⟨key, value⟩ := member
      by_cases hkey : key = protoKey
      · simp [membersWithoutProto, hkey, ih]
      · simp [membersWithoutProto, hkey, ih]

theorem keys_orderedMembers (members : List (JsString × Json)) :
    (orderedMembers members).map Prod.fst = members.map Prod.fst := by
  rw [orderedMembers_eq_map, List.map_map]
  rfl

theorem keys_membersWithoutProto (members : List (JsString × Json)) :
    (membersWithoutProto members).map Prod.fst =
      (members.map Prod.fst).filter fun key => key ≠ protoKey := by
  rw [membersWithoutProto_eq_map, List.map_map, List.filter_map]
  rfl

section Same

variable {numbers : JsNumbers}

/-- A canonical value is the ordered form of what is left without `__proto__`. -/
theorem normalize_eq {value : Json} (h : value.DistinctKeys) :
    normalize value = value.withoutProto.ordered := by
  induction h with
  | null => rfl
  | bool value => rfl
  | number value => rfl
  | string value => rfl
  | @array items _ ih =>
      rw [normalize, Json.withoutProto, Json.ordered, normalizeItems_eq_map, orderedItems_eq_map,
        itemsWithoutProto_eq_map, List.map_map]
      exact congrArg Json.array (List.map_congr_left fun item hitem => ih item hitem)
  | @object members _ _ ih =>
      rw [normalize, Json.withoutProto, Json.ordered, normalizeMembers_eq_map,
        orderedMembers_eq_map, membersWithoutProto_eq_map, List.map_map]
      refine congrArg (fun list => Json.object (List.insertionSort memberLe list))
        (List.map_congr_left fun member hmember => ?_)
      rw [Function.comp_apply, ih member (List.mem_of_mem_filter hmember)]

theorem distinctKeys_withoutProto {value : Json} (h : value.DistinctKeys) :
    value.withoutProto.DistinctKeys := by
  induction h with
  | null => exact .null
  | bool value => exact .bool value
  | number value => exact .number value
  | string value => exact .string value
  | @array items _ ih =>
      rw [Json.withoutProto, itemsWithoutProto_eq_map]
      refine .array fun item hitem => ?_
      obtain ⟨source, hsource, rfl⟩ := List.mem_map.mp hitem
      exact ih source hsource
  | @object members hkeys _ ih =>
      rw [Json.withoutProto]
      refine .object ?_ fun member hmember => ?_
      · rw [keys_membersWithoutProto]
        exact hkeys.filter _
      · rw [membersWithoutProto_eq_map] at hmember
        obtain ⟨source, hsource, rfl⟩ := List.mem_map.mp hmember
        exact ih source (List.mem_of_mem_filter hsource)

theorem Json.Same.symm {a b : Json} (h : a.Same b) : b.Same a := by
  induction h with
  | null => exact .null
  | bool value => exact .bool value
  | number value => exact .number value
  | string value => exact .string value
  | array hlength _ ih =>
      refine .array hlength.symm fun p hp => ?_
      rw [← List.zip_swap] at hp
      obtain ⟨q, hq, rfl⟩ := List.mem_map.mp hp
      exact ih q hq
  | object hkeys _ ih =>
      exact .object hkeys.symm fun x hx y hy hkey => ih y hy x hx hkey.symm

theorem Json.Same.everyObject {P : List JsString → Prop}
    (hperm : ∀ keys keys' : List JsString, keys.Perm keys' → P keys → P keys') {a b : Json}
    (h : a.Same b) (ha : a.EveryObject P) : b.EveryObject P := by
  induction h with
  | null => exact .null
  | bool value => exact .bool value
  | number value => exact .number value
  | string value => exact .string value
  | @array a b hlength _ ih =>
      refine .array fun item hitem => ?_
      obtain ⟨i, hi, rfl⟩ := List.mem_iff_getElem.mp hitem
      have hia : i < a.length := hlength ▸ hi
      exact ih (a[i], b[i]) (List.mem_iff_getElem.mpr ⟨i, by simp [hia, hi], by simp⟩)
        (everyObject_array.mp ha _ (List.getElem_mem hia))
  | @object a b hkeys _ ih =>
      obtain ⟨hP, hvalues⟩ := everyObject_object.mp ha
      refine .object (hperm _ _ hkeys hP) fun y hy => ?_
      obtain ⟨x, hx, hxy⟩ := List.mem_map.mp
        (hkeys.mem_iff.mpr (List.mem_map_of_mem (f := Prod.fst) hy))
      exact ih x hx y hy hxy (hvalues x hx)

theorem Json.Same.distinctKeys {a b : Json} (h : a.Same b) (ha : a.DistinctKeys) :
    b.DistinctKeys :=
  h.everyObject (fun _ _ hperm => hperm.nodup_iff.mp) ha

theorem Json.Same.protoFree {a b : Json} (h : a.Same b) (ha : a.ProtoFree) : b.ProtoFree :=
  h.everyObject (fun _ _ hperm hkeys => hperm.mem_iff.not.mp hkeys) ha

theorem same_ordered {value : Json} (h : value.DistinctKeys) :
    value.Same value.ordered := by
  induction h with
  | null => exact .null
  | bool value => exact .bool value
  | number value => exact .number value
  | string value => exact .string value
  | @array items _ ih =>
      rw [Json.ordered, orderedItems_eq_map]
      refine .array (List.length_map ..).symm fun p hp => ?_
      rw [← List.map_prod_left_eq_zip] at hp
      obtain ⟨item, hitem, rfl⟩ := List.mem_map.mp hp
      exact ih item hitem
  | @object members hkeys _ ih =>
      rw [Json.ordered]
      have hperm := List.perm_insertionSort memberLe (orderedMembers members)
      refine .object ?_ fun x hx y hy hkey => ?_
      · rw [← keys_orderedMembers]
        exact (hperm.map Prod.fst).symm
      · rw [hperm.mem_iff, orderedMembers_eq_map] at hy
        obtain ⟨source, hsource, rfl⟩ := List.mem_map.mp hy
        have hsame : x = source := List.inj_on_of_nodup_map hkeys hx hsource hkey
        subst hsame
        exact ih x hx

theorem Json.Same.trans {a b c : Json} (hab : a.Same b) (hbc : b.Same c) : a.Same c := by
  induction hab generalizing c with
  | null => exact hbc
  | bool value => exact hbc
  | number value => exact hbc
  | string value => exact hbc
  | @array a b hlength _ ih =>
      cases hbc with
      | @array _ c hlength' h' =>
          refine .array (hlength.trans hlength') fun p hp => ?_
          obtain ⟨i, hi, rfl⟩ := List.mem_iff_getElem.mp hp
          simp only [List.length_zip, lt_min_iff] at hi
          have hib : i < b.length := hlength ▸ hi.1
          rw [List.getElem_zip]
          exact ih (a[i], b[i]) (List.mem_iff_getElem.mpr ⟨i, by simp [hi.1, hib], by simp⟩)
            (h' (b[i], (c)[i]) (List.mem_iff_getElem.mpr ⟨i, by simp [hi.2, hib], by simp⟩))
  | @object a b hkeys _ ih =>
      cases hbc with
      | @object _ c hkeys' h' =>
          refine .object (hkeys.trans hkeys') fun x hx z hz hkey => ?_
          obtain ⟨y, hy, hxy⟩ := List.mem_map.mp
            (hkeys.mem_iff.mp (List.mem_map_of_mem (f := Prod.fst) hx))
          exact ih x hx y hy hxy.symm (h' y hy z hz (hxy.trans hkey))

private theorem nodup_orderedMembers {members : List (JsString × Json)}
    (h : (members.map Prod.fst).Nodup) : (orderedMembers members).Nodup :=
  List.Nodup.of_map Prod.fst (by rwa [keys_orderedMembers])

private theorem mem_orderedMembers {a b : List (JsString × Json)}
    (hkeys : (a.map Prod.fst).Perm (b.map Prod.fst))
    (hsame : ∀ x ∈ a, ∀ y ∈ b, x.1 = y.1 → x.2.ordered = y.2.ordered)
    {member : JsString × Json} (h : member ∈ orderedMembers a) : member ∈ orderedMembers b := by
  rw [orderedMembers_eq_map] at h ⊢
  obtain ⟨x, hx, rfl⟩ := List.mem_map.mp h
  obtain ⟨y, hy, hkey⟩ := List.mem_map.mp
    (hkeys.mem_iff.mp (List.mem_map_of_mem (f := Prod.fst) hx))
  exact List.mem_map.mpr ⟨y, hy, by rw [hkey, hsame x hx y hy hkey.symm]⟩

theorem same_iff_ordered {a b : Json} (ha : a.DistinctKeys) (hb : b.DistinctKeys) :
    a.Same b ↔ a.ordered = b.ordered := by
  constructor
  · intro h
    induction h with
    | null => rfl
    | bool value => rfl
    | number value => rfl
    | string value => rfl
    | @array a b hlength _ ih =>
        cases ha with
        | array ha =>
            cases hb with
            | array hb =>
                rw [Json.ordered, Json.ordered, orderedItems_eq_map, orderedItems_eq_map]
                refine congrArg Json.array (List.ext_getElem (by simpa using hlength) ?_)
                intro i hi hi'
                rw [List.length_map] at hi hi'
                rw [List.getElem_map, List.getElem_map]
                exact ih (a[i], b[i]) (List.mem_iff_getElem.mpr ⟨i, by simp [hi, hi'], by simp⟩)
                  (ha _ (List.getElem_mem hi)) (hb _ (List.getElem_mem hi'))
    | @object a b hkeys _ ih =>
        cases ha with
        | object hnodup ha =>
            cases hb with
            | object hnodup' hb =>
                have hsame : ∀ x ∈ a, ∀ y ∈ b, x.1 = y.1 → x.2.ordered = y.2.ordered :=
                  fun x hx y hy hkey => ih x hx y hy hkey (ha x hx) (hb y hy)
                have hperm : (orderedMembers a).Perm (orderedMembers b) :=
                  (List.perm_ext_iff_of_nodup (nodup_orderedMembers hnodup)
                    (nodup_orderedMembers hnodup')).mpr fun member =>
                      ⟨mem_orderedMembers hkeys hsame, mem_orderedMembers hkeys.symm
                        fun y hy x hx hkey => (hsame x hx y hy hkey.symm).symm⟩
                rw [Json.ordered, Json.ordered]
                refine congrArg Json.object (eq_of_perm_of_sorted ?_
                  (List.pairwise_insertionSort memberLe _)
                  (List.pairwise_insertionSort memberLe _) ?_)
                · rw [((List.perm_insertionSort memberLe _).map Prod.fst).nodup_iff,
                    keys_orderedMembers]
                  exact hnodup
                · exact (List.perm_insertionSort memberLe _).trans
                    (hperm.trans (List.perm_insertionSort memberLe _).symm)
  · intro h
    exact (same_ordered ha).trans (h ▸ (same_ordered hb).symm)

theorem stringify_injective {a b : Json} (ha : a.WellFormed numbers) (hb : b.WellFormed numbers)
    (h : stringify numbers a = stringify numbers b) : a = b := by
  have hread := jsonParse_stringify ha
  rw [h, jsonParse_stringify hb] at hread
  exact (Option.some.inj hread).symm

/-- Two values have one canonical text exactly when they are the same without
their members named `__proto__`. -/
theorem canonicalJson_eq_iff {a b : Json} (ha : a.WellFormed numbers)
    (hb : b.WellFormed numbers) :
    canonicalJson numbers a = canonicalJson numbers b ↔ a.withoutProto.Same b.withoutProto := by
  rw [same_iff_ordered (distinctKeys_withoutProto ha.distinctKeys)
      (distinctKeys_withoutProto hb.distinctKeys),
    ← normalize_eq ha.distinctKeys, ← normalize_eq hb.distinctKeys]
  exact ⟨stringify_injective (wellFormed_normalize ha) (wellFormed_normalize hb),
    congrArg (stringify numbers)⟩

theorem canonicalJson_congr {a b : Json} (ha : a.DistinctKeys) (hb : b.DistinctKeys)
    (h : a.withoutProto.Same b.withoutProto) :
    canonicalJson numbers a = canonicalJson numbers b := by
  rw [canonicalJson, canonicalJson, normalize_eq ha, normalize_eq hb,
    (same_iff_ordered (distinctKeys_withoutProto ha) (distinctKeys_withoutProto hb)).mp h]

theorem Json.Same.withoutProto {a b : Json} (h : a.Same b) :
    a.withoutProto.Same b.withoutProto := by
  induction h with
  | null => exact .null
  | bool value => exact .bool value
  | number value => exact .number value
  | string value => exact .string value
  | @array a b hlength _ ih =>
      rw [Json.withoutProto, Json.withoutProto, itemsWithoutProto_eq_map,
        itemsWithoutProto_eq_map]
      refine .array (by simpa using hlength) fun p hp => ?_
      rw [List.zip_map] at hp
      obtain ⟨q, hq, rfl⟩ := List.mem_map.mp hp
      exact ih q hq
  | @object a b hkeys _ ih =>
      rw [Json.withoutProto, Json.withoutProto]
      refine .object ?_ fun x hx y hy hkey => ?_
      · rw [keys_membersWithoutProto, keys_membersWithoutProto]
        exact hkeys.filter _
      · rw [membersWithoutProto_eq_map] at hx hy
        obtain ⟨x', hx', rfl⟩ := List.mem_map.mp hx
        obtain ⟨y', hy', rfl⟩ := List.mem_map.mp hy
        exact ih x' (List.mem_of_mem_filter hx') y' (List.mem_of_mem_filter hy') hkey

end Same

/-! ## Values without `__proto__` -/

theorem withoutProto_eq_self {value : Json} (h : value.ProtoFree) : value.withoutProto = value := by
  induction h with
  | null => rfl
  | bool value => rfl
  | number value => rfl
  | string value => rfl
  | @array items _ ih =>
      rw [Json.withoutProto, itemsWithoutProto_eq_map]
      exact congrArg Json.array ((List.map_congr_left ih).trans (List.map_id _))
  | @object members hkeys _ ih =>
      have hkeep : ∀ member ∈ members, member.1 ≠ protoKey := fun member hmember hkey =>
        hkeys (hkey ▸ List.mem_map_of_mem hmember)
      rw [Json.withoutProto, membersWithoutProto_eq_map,
        List.filter_eq_self.mpr fun member hmember => decide_eq_true (hkeep member hmember)]
      refine congrArg Json.object ((List.map_congr_left (g := id) fun member hmember => ?_).trans
        (List.map_id _))
      rw [ih member hmember]
      rfl

theorem protoFree_withoutProto {value : Json} (h : value.DistinctKeys) :
    value.withoutProto.ProtoFree := by
  induction h with
  | null => exact .null
  | bool value => exact .bool value
  | number value => exact .number value
  | string value => exact .string value
  | @array items _ ih =>
      rw [Json.withoutProto, itemsWithoutProto_eq_map]
      refine .array fun item hitem => ?_
      obtain ⟨source, hsource, rfl⟩ := List.mem_map.mp hitem
      exact ih source hsource
  | @object members _ _ ih =>
      rw [Json.withoutProto]
      refine .object ?_ fun member hmember => ?_
      · rw [keys_membersWithoutProto]
        simp
      · rw [membersWithoutProto_eq_map] at hmember
        obtain ⟨source, hsource, rfl⟩ := List.mem_map.mp hmember
        exact ih source (List.mem_of_mem_filter hsource)

theorem everyObject_ordered {P : List JsString → Prop}
    (hperm : ∀ keys keys' : List JsString, keys.Perm keys' → P keys → P keys') {value : Json}
    (h : value.EveryObject P) : value.ordered.EveryObject P := by
  induction h with
  | null => exact .null
  | bool value => exact .bool value
  | number value => exact .number value
  | string value => exact .string value
  | @array items _ ih =>
      rw [Json.ordered, orderedItems_eq_map]
      refine .array fun item hitem => ?_
      obtain ⟨source, hsource, rfl⟩ := List.mem_map.mp hitem
      exact ih source hsource
  | @object members hkeys _ ih =>
      have hsorted := List.perm_insertionSort memberLe (orderedMembers members)
      rw [Json.ordered]
      refine .object (hperm _ _ ?_ hkeys) fun member hmember => ?_
      · rw [← keys_orderedMembers]
        exact (hsorted.map Prod.fst).symm
      · rw [hsorted.mem_iff, orderedMembers_eq_map] at hmember
        obtain ⟨source, hsource, rfl⟩ := List.mem_map.mp hmember
        exact ih source hsource

theorem protoFree_normalize {value : Json} (h : value.DistinctKeys) :
    (normalize value).ProtoFree := by
  rw [normalize_eq h]
  exact everyObject_ordered (fun keys keys' hperm hkeys => hperm.mem_iff.not.mp hkeys)
    (protoFree_withoutProto h)

/-! ## Parsed values -/

theorem keys_assignMember (members : List (JsString × Json)) (member : JsString × Json) :
    (assignMember members member).map Prod.fst =
      if member.1 ∈ members.map Prod.fst then members.map Prod.fst
      else members.map Prod.fst ++ [member.1] := by
  have hany : (members.any fun other => other.1 == member.1) = true ↔
      member.1 ∈ members.map Prod.fst := by
    simp only [List.any_eq_true, beq_iff_eq, List.mem_map]
  unfold assignMember
  by_cases hmem : member.1 ∈ members.map Prod.fst
  · rw [if_pos (hany.mpr hmem), if_pos hmem, List.map_map]
    refine List.map_congr_left fun other _ => ?_
    simp only [Function.comp_apply]
    split_ifs with hkey
    · exact (beq_iff_eq.mp hkey).symm
    · rfl
  · rw [if_neg (hany.not.mpr hmem), if_neg hmem, List.map_append]
    rfl

theorem nodup_assignMember {members : List (JsString × Json)} {member : JsString × Json}
    (h : (members.map Prod.fst).Nodup) : ((assignMember members member).map Prod.fst).Nodup := by
  rw [keys_assignMember]
  split_ifs with hmem
  · exact h
  · rw [← List.concat_eq_append]
    exact h.concat hmem

theorem mem_assignMember {members : List (JsString × Json)} {member other : JsString × Json}
    (h : other ∈ assignMember members member) : other ∈ members ∨ other = member := by
  unfold assignMember at h
  split_ifs at h
  · obtain ⟨source, hsource, rfl⟩ := List.mem_map.mp h
    split_ifs
    · exact Or.inr rfl
    · exact Or.inl hsource
  · simpa using h

theorem distinctKeys_assigned {read members : List (JsString × Json)}
    (hkeys : (members.map Prod.fst).Nodup) (h : ∀ member ∈ members, member.2.DistinctKeys)
    (hread : ∀ member ∈ read, member.2.DistinctKeys) :
    (Json.object (read.foldl assignMember members)).DistinctKeys := by
  induction read generalizing members with
  | nil => exact .object hkeys h
  | cons member read ih =>
      refine ih (nodup_assignMember hkeys) (fun other hother => ?_)
        fun other hother => hread other (List.mem_cons_of_mem _ hother)
      rcases mem_assignMember hother with hold | rfl
      · exact h other hold
      · exact hread _ (List.mem_cons_self ..)

theorem distinctKeys_parse (numbers : JsNumbers) (fuel : Nat) :
    (∀ text value rest, parseValue numbers fuel text = some (value, rest) → value.DistinctKeys) ∧
    (∀ text items rest, parseItems numbers fuel text = some (items, rest) →
      ∀ item ∈ items, item.DistinctKeys) ∧
    (∀ text members rest, parseMembers numbers fuel text = some (members, rest) →
      ∀ member ∈ members, member.2.DistinctKeys) := by
  induction fuel with
  | zero =>
      refine ⟨fun text value rest h => ?_, fun text items rest h => ?_,
        fun text members rest h => ?_⟩
      all_goals simp [parseValue, parseItems, parseMembers] at h
  | succ fuel ih =>
      obtain ⟨ihvalue, ihitems, ihmembers⟩ := ih
      refine ⟨fun text value rest h => ?_, fun text items rest h => ?_,
        fun text members rest h => ?_⟩
      · rw [parseValue] at h
        split at h
        · cases h
        rename_i u tail _
        split_ifs at h
        · obtain ⟨p, -, hp⟩ := Option.map_eq_some_iff.mp h
          cases hp
          exact .string _
        · split at h
          · cases h
          split_ifs at h
          · cases h
            exact .array (List.forall_mem_nil _)
          · obtain ⟨p, hitems, hp⟩ := Option.map_eq_some_iff.mp h
            cases hp
            exact .array (ihitems _ _ _ hitems)
        · split at h
          · cases h
          split_ifs at h
          · cases h
            exact .object List.nodup_nil (List.forall_mem_nil _)
          · obtain ⟨p, hmembers, hp⟩ := Option.map_eq_some_iff.mp h
            cases hp
            exact distinctKeys_assigned List.nodup_nil (List.forall_mem_nil _)
              (ihmembers _ _ _ hmembers)
        · obtain ⟨number, -, hp⟩ := Option.map_eq_some_iff.mp h
          cases hp
          exact .number _
        · unfold parseKeyword at h
          split_ifs at h <;> cases h
          · exact .null
          · exact .bool true
          · exact .bool false
      · rw [parseItems] at h
        obtain ⟨⟨item, after⟩, hvalue, h⟩ := Option.bind_eq_some_iff.mp h
        dsimp only at h
        split at h
        · cases h
        split_ifs at h
        · obtain ⟨q, hitems, hq⟩ := Option.map_eq_some_iff.mp h
          cases hq
          exact List.forall_mem_cons.mpr ⟨ihvalue _ _ _ hvalue, ihitems _ _ _ hitems⟩
        · cases h
          exact List.forall_mem_singleton.mpr (ihvalue _ _ _ hvalue)
      · rw [parseMembers] at h
        split at h
        · cases h
        split_ifs at h
        obtain ⟨⟨key, after⟩, -, h⟩ := Option.bind_eq_some_iff.mp h
        dsimp only at h
        split at h
        · cases h
        split_ifs at h
        obtain ⟨⟨value, afterValue⟩, hvalue, h⟩ := Option.bind_eq_some_iff.mp h
        dsimp only at h
        split at h
        · cases h
        split_ifs at h
        · obtain ⟨r, hmembers, hr⟩ := Option.map_eq_some_iff.mp h
          cases hr
          exact List.forall_mem_cons.mpr ⟨ihvalue _ _ _ hvalue, ihmembers _ _ _ hmembers⟩
        · cases h
          exact List.forall_mem_singleton.mpr (ihvalue _ _ _ hvalue)

theorem distinctKeys_jsonParse {numbers : JsNumbers} {text : JsString} {value : Json}
    (h : jsonParse numbers text = some value) : value.DistinctKeys := by
  unfold jsonParse at h
  split at h
  · rename_i parsed rest hparsed
    split_ifs at h
    cases h
    exact (distinctKeys_parse numbers _).1 _ _ _ hparsed
  · cases h

/-- A canonical value without `__proto__` is the same JSON value. -/
theorem same_normalize {value : Json} (h : value.DistinctKeys)
    (hproto : value.ProtoFree) : value.Same (normalize value) := by
  rw [normalize_eq h, withoutProto_eq_self hproto]
  exact same_ordered h

end X424
