import X424.Encoding
import X424.Js.Json

/-!
# Canonical JSON

`canonical-json.ts`: a value is written with the members of its objects
sorted, and a text is read only when it is the text of its value.
-/

namespace X424

/-! ## The order of members -/

def arrayIndex? (key : JsString) : Option Nat :=
  let value := key.foldl (fun n u => 10 * n + (u.toNat - 0x30)) 0
  if key ≠ [] ∧ (key.all fun u => 0x30 ≤ u && u ≤ 0x39) ∧ (key.head? ≠ some 0x30 ∨ key.length = 1) ∧
      value < 2 ^ 32 - 1 then some value
  else none

def keyRank (key : JsString) : List Nat :=
  match arrayIndex? key with
  | some index => [0, index]
  | none => 1 :: key.map UInt16.toNat

def memberLe (a b : JsString × Json) : Prop := keyRank a.1 ≤ keyRank b.1

instance : DecidableRel memberLe :=
  fun a b => inferInstanceAs (Decidable (keyRank a.1 ≤ keyRank b.1))

instance : Std.Total memberLe := ⟨fun a b => le_total (keyRank a.1) (keyRank b.1)⟩

instance : IsTrans (JsString × Json) memberLe :=
  ⟨fun _ b _ hab hbc => le_trans (b := keyRank b.1) hab hbc⟩

/-! ## Canonical values -/

def protoKey : JsString := js "__proto__"

mutual

/-- `normalize`.  An assignment to `__proto__` sets the prototype of the new
object, so that a member of this name is lost. -/
def normalize : Json → Json
  | .array items => .array (normalizeItems items)
  | .object members => .object ((normalizeMembers members).insertionSort memberLe)
  | .null => .null
  | .bool value => .bool value
  | .number value => .number value
  | .string value => .string value

def normalizeItems : List Json → List Json
  | [] => []
  | item :: items => normalize item :: normalizeItems items

def normalizeMembers : List (JsString × Json) → List (JsString × Json)
  | [] => []
  | (key, value) :: members =>
      if key = protoKey then normalizeMembers members
      else (key, normalize value) :: normalizeMembers members

end

theorem normalizeItems_eq_map (items : List Json) :
    normalizeItems items = items.map normalize := by
  induction items with
  | nil => rfl
  | cons item items ih => rw [normalizeItems, ih, List.map_cons]

theorem normalizeMembers_eq_map (members : List (JsString × Json)) :
    normalizeMembers members =
      (members.filter fun member => member.1 ≠ protoKey).map
        fun member => (member.1, normalize member.2) := by
  induction members with
  | nil => rfl
  | cons member members ih =>
      obtain ⟨key, value⟩ := member
      by_cases hkey : key = protoKey
      · simp [normalizeMembers, hkey, ih]
      · simp [normalizeMembers, hkey, ih]

def canonicalJson (numbers : JsNumbers) (value : Json) : JsString :=
  stringify numbers (normalize value)

def parseCanonicalJsonBytes (numbers : JsNumbers) (bytes : List UInt8) (label : JsString) :
    Except JsError Json := do
  let text ← decodeStrictUtf8 bytes label
  match jsonParse numbers text with
  | none => .error ⟨js "Malformed " ++ label⟩
  | some value =>
      if canonicalJson numbers value ≠ text then .error ⟨js "Non-canonical " ++ label⟩
      else .ok value

example : normalize (.object [(js "b", .null), (js "10", .null), (js "a", .null), (js "9", .null),
    (protoKey, .null)]) = .object [(js "9", .null), (js "10", .null), (js "a", .null),
    (js "b", .null)] := by
  rfl

/-! ## Laws -/

section Laws

variable {numbers : JsNumbers}

theorem keys_normalizeMembers (members : List (JsString × Json)) :
    (normalizeMembers members).map Prod.fst =
      (members.map Prod.fst).filter fun key => key ≠ protoKey := by
  rw [normalizeMembers_eq_map, List.map_map, List.filter_map]
  rfl

theorem wellFormed_normalize {value : Json} (h : value.WellFormed numbers) :
    (normalize value).WellFormed numbers := by
  induction h with
  | null => exact .null
  | bool value => exact .bool value
  | number h => exact .number h
  | string value => exact .string value
  | @array items _ ih =>
      simp only [normalize, normalizeItems_eq_map]
      refine .array fun item hitem => ?_
      obtain ⟨source, hsource, rfl⟩ := List.mem_map.mp hitem
      exact ih source hsource
  | @object members hkeys _ ih =>
      simp only [normalize]
      have hperm := List.perm_insertionSort memberLe (normalizeMembers members)
      refine .object ?_ fun member hmember => ?_
      · rw [(hperm.map Prod.fst).nodup_iff, keys_normalizeMembers]
        exact hkeys.filter _
      · rw [hperm.mem_iff, normalizeMembers_eq_map] at hmember
        obtain ⟨source, hsource, rfl⟩ := List.mem_map.mp hmember
        exact ih source (List.mem_of_mem_filter hsource)

theorem normalize_normalize {value : Json} (h : value.WellFormed numbers) :
    normalize (normalize value) = normalize value := by
  induction h with
  | null => rfl
  | bool value => rfl
  | number h => rfl
  | string value => rfl
  | @array items _ ih =>
      simp only [normalize, normalizeItems_eq_map, List.map_map, Json.array.injEq]
      exact List.map_congr_left fun item hitem => ih item hitem
  | @object members _ _ ih =>
      simp only [normalize, Json.object.injEq]
      have hperm := List.perm_insertionSort memberLe (normalizeMembers members)
      have hsource : ∀ member ∈ (normalizeMembers members).insertionSort memberLe,
          member.1 ≠ protoKey ∧ normalize member.2 = member.2 := by
        intro member hmember
        rw [hperm.mem_iff, normalizeMembers_eq_map] at hmember
        obtain ⟨source, hsource, rfl⟩ := List.mem_map.mp hmember
        rw [List.mem_filter] at hsource
        exact ⟨of_decide_eq_true hsource.2, ih source hsource.1⟩
      have hsame : normalizeMembers ((normalizeMembers members).insertionSort memberLe) =
          (normalizeMembers members).insertionSort memberLe := by
        rw [normalizeMembers_eq_map, List.filter_eq_self.mpr
          fun member hmember => decide_eq_true (hsource member hmember).1]
        exact (List.map_congr_left (g := id) fun member hmember =>
          show (member.1, normalize member.2) = member from
            Prod.ext rfl (hsource member hmember).2).trans (List.map_id _)
      rw [hsame]
      exact (List.pairwise_insertionSort memberLe _).insertionSort_eq

theorem isText_closeWith {closing : UInt16} (hclosing : closing < 0x80) :
    ∀ {texts : List JsString}, (∀ text ∈ texts, IsText text) → IsText (closeWith closing texts)
  | [], _ => isText_ascii (by simpa [closeWith] using hclosing)
  | [text], h => (h text (by simp)).append (isText_ascii (by simpa using hclosing))
  | text :: next :: texts, h =>
      (h text (by simp)).append ((isText_js ",").append
        (isText_closeWith hclosing fun other hother => h other (List.mem_cons_of_mem _ hother)))

theorem stringifyItems_eq_map (items : List Json) :
    stringifyItems numbers items = items.map (stringify numbers) := by
  induction items with
  | nil => rfl
  | cons item items ih => rw [stringifyItems, ih, List.map_cons]

theorem stringifyMembers_eq_map (members : List (JsString × Json)) :
    stringifyMembers numbers members =
      members.map fun member => quote member.1 ++ 0x3A :: stringify numbers member.2 := by
  induction members with
  | nil => rfl
  | cons member members ih => rw [stringifyMembers, ih, List.map_cons]

theorem isText_stringify {value : Json} (h : value.WellFormed numbers) :
    IsText (stringify numbers value) := by
  induction h with
  | null => exact isText_js _
  | bool value => cases value <;> exact isText_js _
  | @number value h =>
      exact isText_ascii fun u hu => numberUnit_ascii (numbers.write_units value h u hu)
  | string value => exact isText_quote value
  | @array items _ ih =>
      refine (isText_js "[").append (isText_closeWith (by decide) fun text htext => ?_)
      rw [stringifyItems_eq_map] at htext
      obtain ⟨item, hitem, rfl⟩ := List.mem_map.mp htext
      exact ih item hitem
  | @object members _ _ ih =>
      refine (isText_js "\x7b").append (isText_closeWith (by decide) fun text htext => ?_)
      rw [stringifyMembers_eq_map] at htext
      obtain ⟨member, hmember, rfl⟩ := List.mem_map.mp htext
      exact (isText_quote _).append ((isText_js ":").append (ih member hmember))

theorem parseCanonicalJsonBytes_canonicalJson {value : Json} (h : value.WellFormed numbers)
    (label : JsString) :
    parseCanonicalJsonBytes numbers (utf8 (canonicalJson numbers value)) label =
      .ok (normalize value) := by
  have hwell := wellFormed_normalize h
  obtain ⟨u, rest, hhead, -, -, hascii⟩ := stringify_head hwell
  have hmark : (canonicalJson numbers value).head? ≠ some 0xFEFF := by
    rw [canonicalJson, hhead]
    rintro ⟨⟩
    exact absurd hascii (by decide)
  have hdecoded : decodeStrictUtf8 (utf8 (canonicalJson numbers value)) label =
      .ok (canonicalJson numbers value) :=
        decodeStrictUtf8_utf8 (isText_stringify hwell) hmark label
  have hparsed : jsonParse numbers (canonicalJson numbers value) = some (normalize value) :=
    jsonParse_stringify hwell
  have hcanonical : canonicalJson numbers (normalize value) = canonicalJson numbers value := by
    rw [canonicalJson, normalize_normalize h, canonicalJson]
  simp only [parseCanonicalJsonBytes, hdecoded, bind, Except.bind, hparsed, hcanonical, ne_eq,
    not_true_eq_false, if_false]

theorem canonicalJson_of_parsed {bytes : List UInt8} {label : JsString} {value : Json}
    (h : parseCanonicalJsonBytes numbers bytes label = .ok value) :
    decodeStrictUtf8 bytes label = .ok (canonicalJson numbers value) ∧
      jsonParse numbers (canonicalJson numbers value) = some value := by
  simp only [parseCanonicalJsonBytes, bind, Except.bind] at h
  split at h
  · cases h
  · rename_i text htext
    split at h
    · cases h
    · rename_i parsed hparsed
      split_ifs at h with hcanonical
      cases h
      rw [htext, not_not.mp hcanonical]
      exact ⟨rfl, hparsed⟩

end Laws

end X424
