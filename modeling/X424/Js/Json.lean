import Mathlib.Data.List.Lex
import Mathlib.Data.List.Sort
import Mathlib.Data.Nat.Digits.Defs
import Mathlib.Data.Rat.Defs
import X424.Js.Quote

/-!
# JSON values and their texts

A value that `JSON.parse` gives is a tree; the members of an object are listed
in the order of `Object.keys`.  How a number is written and read is a parameter
of which only this is used: reading undoes writing.
-/

namespace X424

def isNumberUnit (u : UInt16) : Bool :=
  (0x30 ≤ u && u ≤ 0x39) || u == 0x2D || u == 0x2B || u == 0x2E || u == 0x45 || u == 0x65

/-- `JSON.stringify` and `JSON.parse` on finite numbers. -/
structure JsNumbers where
  IsDouble : ℚ → Prop
  write : ℚ → JsString
  /-- `none` when the literal is malformed or denotes no finite number. -/
  read : JsString → Option ℚ
  isDouble_nat : ∀ n : Nat, n ≤ 2 ^ 53 → IsDouble n
  read_write : ∀ q, IsDouble q → read (write q) = some q
  write_ne_nil : ∀ q, IsDouble q → write q ≠ []
  write_units : ∀ q, IsDouble q → ∀ u ∈ write q, isNumberUnit u = true

/-! ## Whole numbers -/

def decimalDigits (n : Nat) : List Nat := if n = 0 then [0] else (Nat.digits 10 n).reverse

def writeWhole (value : ℚ) : JsString :=
  (decimalDigits value.num.toNat).map fun digit => UInt16.ofNat (0x30 + digit)

def readWhole (literal : JsString) : Option ℚ :=
  if literal ≠ [] ∧ literal.all fun u => 0x30 ≤ u && u ≤ 0x39 then
    some (Nat.ofDigits 10 (literal.reverse.map fun u => u.toNat - 0x30) : Nat)
  else none

private theorem digitUnit_spec {digit : Nat} (h : digit < 10) :
    (0x30 ≤ UInt16.ofNat (0x30 + digit) && UInt16.ofNat (0x30 + digit) ≤ 0x39) = true ∧
      (UInt16.ofNat (0x30 + digit)).toNat - 0x30 = digit := by
  interval_cases digit <;> decide

private theorem decimalDigits_lt {n digit : Nat} (h : digit ∈ decimalDigits n) : digit < 10 := by
  unfold decimalDigits at h
  split_ifs at h with hzero
  · rw [List.mem_singleton] at h
    omega
  · exact Nat.digits_lt_base (by decide) (List.mem_reverse.mp h)

private theorem ofDigits_decimalDigits (n : Nat) :
    Nat.ofDigits 10 (decimalDigits n).reverse = n := by
  unfold decimalDigits
  split_ifs with hzero
  · subst hzero
    rfl
  · rw [List.reverse_reverse, Nat.ofDigits_digits]

private theorem decimalDigits_ne_nil (n : Nat) : decimalDigits n ≠ [] := by
  unfold decimalDigits
  split_ifs with hzero
  · exact List.cons_ne_nil _ _
  · rwa [Ne, List.reverse_eq_nil_iff, Nat.digits_eq_nil_iff_eq_zero]

theorem writeWhole_units {value : ℚ} {u : UInt16} (h : u ∈ writeWhole value) :
    (0x30 ≤ u && u ≤ 0x39) = true := by
  obtain ⟨digit, hdigit, rfl⟩ := List.mem_map.mp h
  exact (digitUnit_spec (decimalDigits_lt hdigit)).1

theorem readWhole_writeWhole (n : Nat) : readWhole (writeWhole n) = some (n : ℚ) := by
  have hne : writeWhole n ≠ [] := by simpa [writeWhole] using decimalDigits_ne_nil _
  have hunits : (writeWhole n).all (fun u => 0x30 ≤ u && u ≤ 0x39) = true :=
    List.all_eq_true.mpr fun u hu => writeWhole_units hu
  have hdigits : (writeWhole n).reverse.map (fun u => u.toNat - 0x30) =
      (decimalDigits n).reverse := by
    rw [writeWhole, ← List.map_reverse, List.map_map, Rat.num_natCast, Int.toNat_natCast]
    refine (List.map_congr_left (g := id) fun digit hdigit => ?_).trans (List.map_id _)
    exact (digitUnit_spec (decimalDigits_lt (List.mem_reverse.mp hdigit))).2
  rw [readWhole, if_pos ⟨hne, hunits⟩, hdigits, ofDigits_decimalDigits]

/-- The numbers of a program that computes with whole numbers only. -/
def wholeNumbers : JsNumbers where
  IsDouble value := ∃ n : Nat, n ≤ 2 ^ 53 ∧ value = n
  write := writeWhole
  read := readWhole
  isDouble_nat n h := ⟨n, h, rfl⟩
  read_write := by
    rintro value ⟨n, -, rfl⟩
    exact readWhole_writeWhole n
  write_ne_nil := by
    rintro value -
    simpa [writeWhole] using decimalDigits_ne_nil _
  write_units := by
    rintro value - u hu
    have hunit := writeWhole_units hu
    simp only [isNumberUnit, hunit, Bool.true_or]

/-! ## Values -/

inductive Json where
  | null
  | bool (value : Bool)
  | number (value : ℚ)
  | string (value : JsString)
  | array (items : List Json)
  | object (members : List (JsString × Json))

/-- What the language can hold: numbers are doubles and keys are distinct. -/
inductive Json.WellFormed (numbers : JsNumbers) : Json → Prop
  | null : WellFormed numbers .null
  | bool (value : Bool) : WellFormed numbers (.bool value)
  | number {value : ℚ} (h : numbers.IsDouble value) : WellFormed numbers (.number value)
  | string (value : JsString) : WellFormed numbers (.string value)
  | array {items : List Json} (h : ∀ item ∈ items, WellFormed numbers item) :
      WellFormed numbers (.array items)
  | object {members : List (JsString × Json)} (hkeys : (members.map Prod.fst).Nodup)
      (h : ∀ member ∈ members, WellFormed numbers member.2) : WellFormed numbers (.object members)

/-! ## Writing -/

section Stringify

variable (numbers : JsNumbers)

def closeWith (closing : UInt16) : List JsString → JsString
  | [] => [closing]
  | [text] => text ++ [closing]
  | text :: next :: texts => text ++ 0x2C :: closeWith closing (next :: texts)

mutual

/-- `JSON.stringify`. -/
def stringify : Json → JsString
  | .null => js "null"
  | .bool true => js "true"
  | .bool false => js "false"
  | .number value => numbers.write value
  | .string value => quote value
  | .array items => 0x5B :: closeWith 0x5D (stringifyItems items)
  | .object members => 0x7B :: closeWith 0x7D (stringifyMembers members)

def stringifyItems : List Json → List JsString
  | [] => []
  | item :: items => stringify item :: stringifyItems items

def stringifyMembers : List (JsString × Json) → List JsString
  | [] => []
  | (key, value) :: members => (quote key ++ 0x3A :: stringify value) :: stringifyMembers members

end

end Stringify

/-! ## Reading -/

section Parse

variable (numbers : JsNumbers)

def isBlank (u : UInt16) : Bool := u == 0x20 || u == 0x09 || u == 0x0A || u == 0x0D

def skipBlanks (text : JsString) : JsString := text.dropWhile isBlank

def parseKeyword (text : JsString) : Option (Json × JsString) :=
  if text.take 4 = js "null" then some (.null, text.drop 4)
  else if text.take 4 = js "true" then some (.bool true, text.drop 4)
  else if text.take 5 = js "false" then some (.bool false, text.drop 5)
  else none

def parseNumber (text : JsString) : Option (Json × JsString) :=
  (numbers.read (text.takeWhile isNumberUnit)).map fun value =>
    (.number value, text.dropWhile isNumberUnit)

def assignMember (members : List (JsString × Json)) (member : JsString × Json) :
    List (JsString × Json) :=
  if members.any fun other => other.1 == member.1 then
    members.map fun other => if other.1 == member.1 then member else other
  else members ++ [member]

mutual

/-- Read one value; the second part is what follows it. -/
def parseValue : Nat → JsString → Option (Json × JsString)
  | 0, _ => none
  | fuel + 1, text =>
      match skipBlanks text with
      | [] => none
      | u :: rest =>
          if u = quoteMark then (scanString rest).map fun p => (.string p.1, p.2)
          else if u = 0x5B then
            match skipBlanks rest with
            | [] => none
            | v :: after =>
                if v = 0x5D then some (.array [], after)
                else (parseItems fuel (v :: after)).map fun p => (.array p.1, p.2)
          else if u = 0x7B then
            match skipBlanks rest with
            | [] => none
            | v :: after =>
                if v = 0x7D then some (.object [], after)
                else (parseMembers fuel (v :: after)).map fun p =>
                  (.object (p.1.foldl assignMember []), p.2)
          else if isNumberUnit u then parseNumber numbers (u :: rest)
          else parseKeyword (u :: rest)

def parseItems : Nat → JsString → Option (List Json × JsString)
  | 0, _ => none
  | fuel + 1, text => do
      let (item, rest) ← parseValue fuel text
      match skipBlanks rest with
      | [] => none
      | u :: rest =>
          if u = 0x2C then (parseItems fuel rest).map fun p => (item :: p.1, p.2)
          else if u = 0x5D then some ([item], rest)
          else none

def parseMembers : Nat → JsString → Option (List (JsString × Json) × JsString)
  | 0, _ => none
  | fuel + 1, text =>
      match skipBlanks text with
      | [] => none
      | u :: rest =>
          if u = quoteMark then do
            let (key, rest) ← scanString rest
            match skipBlanks rest with
            | [] => none
            | v :: rest =>
                if v = 0x3A then do
                  let (value, rest) ← parseValue fuel rest
                  match skipBlanks rest with
                  | [] => none
                  | w :: rest =>
                      if w = 0x2C then
                        (parseMembers fuel rest).map fun p => ((key, value) :: p.1, p.2)
                      else if w = 0x7D then some ([(key, value)], rest)
                      else none
                else none
          else none

end

/-- `JSON.parse`; every level of nesting takes at least one unit of the text. -/
def jsonParse (text : JsString) : Option Json :=
  match parseValue numbers (2 * text.length) text with
  | some (value, rest) => if skipBlanks rest = [] then some value else none
  | none => none

end Parse

/-! ## Reading undoes writing -/

section RoundTrip

variable {numbers : JsNumbers}

theorem skipBlanks_cons {u : UInt16} (rest : JsString) (h : isBlank u = false) :
    skipBlanks (u :: rest) = u :: rest := by
  simp [skipBlanks, h]

def Delimited (rest : JsString) : Prop := ∀ u ∈ rest.head?, isNumberUnit u = false

theorem delimited_cons {u : UInt16} (rest : JsString) (h : isNumberUnit u = false) :
    Delimited (u :: rest) := by
  simp [Delimited, h]

private theorem numberUnit_plain {u : UInt16} (h : isNumberUnit u = true) :
    isBlank u = false ∧ u ≠ quoteMark ∧ u ≠ 0x5B ∧ u ≠ 0x7B ∧ u ≠ 0x5D ∧ u < 0x80 := by
  simp only [isNumberUnit, Bool.or_eq_true, Bool.and_eq_true, decide_eq_true_eq, beq_iff_eq] at h
  rcases h with ((((hdigit | rfl) | rfl) | rfl) | rfl) | rfl
  · simp only [UInt16.le_iff_toNat_le, UInt16.reduceToNat] at hdigit
    have hne : ∀ v : UInt16, v.toNat < 0x30 ∨ 0x39 < v.toNat → u ≠ v := by
      rintro v hv rfl
      omega
    refine ⟨?_, hne _ (by decide), hne _ (by decide), hne _ (by decide), hne _ (by decide), ?_⟩
    · simp [isBlank, hne 0x20 (by decide), hne 0x09 (by decide), hne 0x0A (by decide),
        hne 0x0D (by decide)]
    · simp only [UInt16.lt_iff_toNat_lt, UInt16.reduceToNat]
      omega
  all_goals decide

theorem numberUnit_ascii {u : UInt16} (h : isNumberUnit u = true) : u < 0x80 :=
  (numberUnit_plain h).2.2.2.2.2

theorem stringify_head {value : Json} (h : value.WellFormed numbers) :
    ∃ u rest, stringify numbers value = u :: rest ∧ isBlank u = false ∧ u ≠ 0x5D ∧
      u < 0x80 := by
  cases h with
  | null => exact ⟨_, _, rfl, by decide, by decide, by decide⟩
  | bool value => cases value <;> exact ⟨_, _, rfl, by decide, by decide, by decide⟩
  | @number value hdouble =>
      cases hwrite : numbers.write value with
      | nil => exact absurd hwrite (numbers.write_ne_nil value hdouble)
      | cons u rest =>
          obtain ⟨hblank, _, _, _, hbracket, hascii⟩ := numberUnit_plain
            (numbers.write_units value hdouble u (by simp [hwrite]))
          exact ⟨u, rest, hwrite, hblank, hbracket, hascii⟩
  | string value => exact ⟨_, _, rfl, by decide, by decide, by decide⟩
  | array h => exact ⟨_, _, rfl, by decide, by decide, by decide⟩
  | object hkeys h => exact ⟨_, _, rfl, by decide, by decide, by decide⟩

theorem stringify_length_pos {value : Json} (h : value.WellFormed numbers) :
    0 < (stringify numbers value).length := by
  obtain ⟨u, rest, hvalue, _⟩ := stringify_head h
  simp [hvalue]

theorem foldl_assignMember {members earlier : List (JsString × Json)}
    (h : ((earlier ++ members).map Prod.fst).Nodup) :
    members.foldl assignMember earlier = earlier ++ members := by
  induction members generalizing earlier with
  | nil => simp
  | cons member members ih =>
      have hfresh : (earlier.any fun other => other.1 == member.1) = false := by
        rw [List.any_eq_false]
        intro other hother
        simp only [List.map_append, List.map_cons, List.nodup_append, List.mem_map] at h
        simpa using h.2.2 other.1 ⟨other, hother, rfl⟩ member.1 (List.mem_cons_self ..)
      rw [List.foldl_cons, assignMember, if_neg (by simp [hfresh]), ih (by simpa using h)]
      simp

/-- That the text of a value is read back, whatever follows it. -/
def ReadsBack (numbers : JsNumbers) (value : Json) : Prop :=
  ∀ fuel rest, 2 * (stringify numbers value).length ≤ fuel → Delimited rest →
    parseValue numbers fuel (stringify numbers value ++ rest) = some (value, rest)

private theorem parseItems_stringify (rest : JsString) :
    ∀ (items : List Json) (item : Json) (fuel : Nat),
      (∀ other ∈ item :: items, other.WellFormed numbers ∧ ReadsBack numbers other) →
      2 * (closeWith 0x5D (stringifyItems numbers (item :: items))).length ≤ fuel →
      parseItems numbers fuel (closeWith 0x5D (stringifyItems numbers (item :: items)) ++ rest) =
        some (item :: items, rest)
  | [], item, fuel, hitems, hfuel => by
      obtain ⟨-, hread⟩ := hitems item (by simp)
      simp only [stringifyItems, closeWith, List.length_append, List.length_cons,
        List.length_nil] at hfuel
      obtain ⟨fuel, rfl⟩ : ∃ n, fuel = n + 1 := ⟨fuel - 1, by omega⟩
      simp only [stringifyItems, closeWith, List.append_assoc, List.cons_append, List.nil_append,
        parseItems]
      rw [hread fuel _ (by omega) (delimited_cons _ (by decide))]
      simp [skipBlanks_cons _ (show isBlank 0x5D = false by decide)]
  | next :: items, item, fuel, hitems, hfuel => by
      obtain ⟨hwell, hread⟩ := hitems item (by simp)
      have hpos := stringify_length_pos hwell
      have hrest := parseItems_stringify rest items next (fuel - 1)
        fun other hother => hitems other (List.mem_cons_of_mem _ hother)
      simp only [stringifyItems, closeWith, List.length_append, List.length_cons] at hfuel hrest
      obtain ⟨fuel, rfl⟩ : ∃ n, fuel = n + 1 := ⟨fuel - 1, by omega⟩
      simp only [stringifyItems, closeWith, List.append_assoc, List.cons_append, parseItems]
      rw [hread fuel _ (by omega) (delimited_cons _ (by decide))]
      simp only [Nat.add_sub_cancel] at hrest
      simp [skipBlanks_cons _ (show isBlank 0x2C = false by decide), hrest (by omega)]

private theorem closeWith_members (key : JsString) (value : Json) (next : JsString × Json)
    (members : List (JsString × Json)) (rest : JsString) :
    closeWith 0x7D (stringifyMembers numbers ((key, value) :: next :: members)) ++ rest =
      quoteMark :: (quoteUnits key ++ quoteMark :: 0x3A :: (stringify numbers value ++ 0x2C ::
        (closeWith 0x7D (stringifyMembers numbers (next :: members)) ++ rest))) := by
  simp [stringifyMembers, closeWith, quote]

private theorem parseMembers_stringify (rest : JsString) :
    ∀ (members : List (JsString × Json)) (key : JsString) (value : Json) (fuel : Nat),
      (∀ other ∈ (key, value) :: members,
        other.2.WellFormed numbers ∧ ReadsBack numbers other.2) →
      2 * (closeWith 0x7D (stringifyMembers numbers ((key, value) :: members))).length ≤ fuel →
      parseMembers numbers fuel
          (closeWith 0x7D (stringifyMembers numbers ((key, value) :: members)) ++ rest) =
        some ((key, value) :: members, rest)
  | [], key, value, fuel, hmembers, hfuel => by
      have hread : ReadsBack numbers value := (hmembers (key, value) (by simp)).2
      simp only [stringifyMembers, closeWith, quote, List.length_append, List.length_cons,
        List.length_nil] at hfuel
      obtain ⟨fuel, rfl⟩ : ∃ n, fuel = n + 1 := ⟨fuel - 1, by omega⟩
      simp only [stringifyMembers, closeWith, quote, List.append_assoc, List.cons_append,
        List.nil_append, parseMembers, skipBlanks_cons _ (show isBlank quoteMark = false by decide),
        if_true, scanString_quoteUnits, bind, Option.bind,
        skipBlanks_cons _ (show isBlank 0x3A = false by decide)]
      rw [hread fuel _ (by omega) (delimited_cons _ (by decide))]
      simp [skipBlanks_cons _ (show isBlank 0x7D = false by decide)]
  | (nextKey, nextValue) :: members, key, value, fuel, hmembers, hfuel => by
      have hread : ReadsBack numbers value := (hmembers (key, value) (by simp)).2
      have hrest := parseMembers_stringify rest members nextKey nextValue (fuel - 1)
        fun other hother => hmembers other (List.mem_cons_of_mem _ hother)
      have hlength := congrArg List.length
        (@closeWith_members numbers key value (nextKey, nextValue) members [])
      simp only [List.append_nil, List.length_append, List.length_cons] at hlength
      rw [hlength] at hfuel
      obtain ⟨fuel, rfl⟩ : ∃ n, fuel = n + 1 := ⟨fuel - 1, by omega⟩
      simp only [Nat.add_sub_cancel] at hrest
      rw [closeWith_members]
      simp only [parseMembers, skipBlanks_cons _ (show isBlank quoteMark = false by decide),
        if_true, scanString_quoteUnits, bind, Option.bind,
        skipBlanks_cons _ (show isBlank 0x3A = false by decide)]
      rw [hread fuel _ (by omega) (delimited_cons _ (by decide))]
      simp [skipBlanks_cons _ (show isBlank 0x2C = false by decide), hrest (by omega)]

theorem parseNumber_write {value : ℚ} (h : numbers.IsDouble value) {rest : JsString}
    (hrest : Delimited rest) :
    parseNumber numbers (numbers.write value ++ rest) = some (.number value, rest) := by
  have hunits := numbers.write_units value h
  have htake : rest.takeWhile isNumberUnit = [] := by
    cases rest with
    | nil => rfl
    | cons u rest => simp [hrest u (by simp)]
  have hdrop : rest.dropWhile isNumberUnit = rest := by
    cases rest with
    | nil => rfl
    | cons u rest => simp [hrest u (by simp)]
  rw [parseNumber, List.takeWhile_append_of_pos hunits, List.dropWhile_append_of_pos hunits,
    htake, hdrop, List.append_nil, numbers.read_write value h]
  rfl

private theorem readsBack_number {value : ℚ} (h : numbers.IsDouble value) :
    ReadsBack numbers (.number value) := by
  intro fuel rest hfuel hrest
  have hparse := parseNumber_write h hrest
  simp only [stringify] at hfuel ⊢
  cases hwrite : numbers.write value with
  | nil => exact absurd hwrite (numbers.write_ne_nil value h)
  | cons u units =>
      rw [hwrite, List.length_cons] at hfuel
      obtain ⟨fuel, rfl⟩ : ∃ n, fuel = n + 1 := ⟨fuel - 1, by omega⟩
      have hunit := numbers.write_units value h u (by simp [hwrite])
      obtain ⟨hblank, hquote, hbracket, hbrace, -, -⟩ := numberUnit_plain hunit
      rw [hwrite] at hparse
      simp only [List.cons_append] at hparse ⊢
      simp only [parseValue, skipBlanks_cons _ hblank, if_neg hquote, if_neg hbracket,
        if_neg hbrace, hunit, if_true, hparse]

private theorem readsBack_keyword {value : Json} {u : UInt16} {units : JsString}
    (hvalue : stringify numbers value = u :: units)
    (hu : isBlank u = false ∧ u ≠ quoteMark ∧ u ≠ 0x5B ∧ u ≠ 0x7B ∧ isNumberUnit u = false)
    (hparse : ∀ rest, parseKeyword (u :: units ++ rest) = some (value, rest)) :
    ReadsBack numbers value := by
  intro fuel rest hfuel _
  rw [hvalue, List.length_cons] at hfuel
  obtain ⟨fuel, rfl⟩ : ∃ n, fuel = n + 1 := ⟨fuel - 1, by omega⟩
  obtain ⟨hblank, hquote, hbracket, hbrace, hunit⟩ := hu
  rw [hvalue, ← hparse rest]
  simp only [List.cons_append, parseValue, skipBlanks_cons _ hblank, if_neg hquote,
    if_neg hbracket, if_neg hbrace, hunit, Bool.false_eq_true, if_false]

theorem parseValue_stringify {value : Json} (h : value.WellFormed numbers) :
    ReadsBack numbers value := by
  induction h with
  | null => exact readsBack_keyword rfl (by decide) fun rest => rfl
  | bool value =>
      cases value <;> exact readsBack_keyword rfl (by decide) fun rest => rfl
  | number hdouble => exact readsBack_number hdouble
  | string value =>
      intro fuel rest hfuel _
      simp only [stringify, quote, List.length_append, List.length_cons] at hfuel
      obtain ⟨fuel, rfl⟩ : ∃ n, fuel = n + 1 := ⟨fuel - 1, by omega⟩
      simp only [stringify, quote, List.cons_append, List.append_assoc, List.nil_append,
        parseValue, skipBlanks_cons _ (show isBlank quoteMark = false by decide), if_true,
        scanString_quoteUnits, Option.map_some]
  | @array items hitems ih =>
      intro fuel rest hfuel _
      simp only [stringify, List.length_cons] at hfuel
      obtain ⟨fuel, rfl⟩ : ∃ n, fuel = n + 1 := ⟨fuel - 1, by omega⟩
      simp only [stringify, List.cons_append, parseValue,
        skipBlanks_cons _ (show isBlank 0x5B = false by decide),
        if_neg (show ¬(0x5B : UInt16) = quoteMark by decide), if_true]
      cases items with
      | nil => simp [stringifyItems, closeWith,
          skipBlanks_cons _ (show isBlank 0x5D = false by decide)]
      | cons item items =>
          have hread := parseItems_stringify rest items item fuel
            (fun other hother => ⟨hitems other hother, ih other hother⟩) (by omega)
          obtain ⟨u, units, hitem, hblank, hbracket, -⟩ :=
            stringify_head (hitems item (List.mem_cons_self ..))
          obtain ⟨after, hafter⟩ : ∃ after,
              closeWith 0x5D (stringifyItems numbers (item :: items)) ++ rest = u :: after := by
            cases items <;> simp [stringifyItems, closeWith, hitem]
          rw [hafter] at hread ⊢
          simp only [skipBlanks_cons _ hblank, if_neg hbracket, hread, Option.map_some]
  | @object members hkeys hmembers ih =>
      intro fuel rest hfuel _
      simp only [stringify, List.length_cons] at hfuel
      obtain ⟨fuel, rfl⟩ : ∃ n, fuel = n + 1 := ⟨fuel - 1, by omega⟩
      simp only [stringify, List.cons_append, parseValue,
        skipBlanks_cons _ (show isBlank 0x7B = false by decide),
        if_neg (show ¬(0x7B : UInt16) = quoteMark by decide),
        if_neg (show ¬(0x7B : UInt16) = 0x5B by decide), if_true]
      cases members with
      | nil => simp [stringifyMembers, closeWith,
          skipBlanks_cons _ (show isBlank 0x7D = false by decide)]
      | cons member members =>
          obtain ⟨key, value⟩ := member
          have hread := parseMembers_stringify rest members key value fuel
            (fun other hother => ⟨hmembers other hother, ih other hother⟩) (by omega)
          obtain ⟨after, hafter⟩ : ∃ after,
              closeWith 0x7D (stringifyMembers numbers ((key, value) :: members)) ++ rest =
                quoteMark :: after := by
            cases members <;> simp [stringifyMembers, closeWith, quote]
          rw [hafter] at hread ⊢
          simp only [skipBlanks_cons _ (show isBlank quoteMark = false by decide),
            if_neg (show ¬quoteMark = 0x7D by decide), hread, Option.map_some]
          rw [foldl_assignMember (by simpa using hkeys), List.nil_append]

theorem jsonParse_stringify {value : Json} (h : value.WellFormed numbers) :
    jsonParse numbers (stringify numbers value) = some value := by
  have hread := parseValue_stringify h _ [] (Nat.le_refl _) (by simp [Delimited])
  rw [List.append_nil] at hread
  simp [jsonParse, hread, skipBlanks]

end RoundTrip

end X424
