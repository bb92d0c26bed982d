import X424.Catalog
import X424.Js.Date
import X424.ObjectShape

/-!
# Checks of members

The `zod` checks that the schemas of `schemas.ts` are made of.  A check reads
the member of an object, which may be absent, and gives the value that the
schema returns for it.
-/

namespace X424

/-- `z.string().url()`, which returns the text without surrounding blanks. -/
structure JsUrls where
  check : JsString → Option JsString
  check_check : ∀ {text url}, check text = some url → check url = some url

section Checks

variable {α : Type}

def zString (minimum maximum : Nat) : Option Json → Option JsString
  | some (.string text) =>
      if minimum ≤ text.length ∧ text.length ≤ maximum then some text else none
  | _ => none

def zMatching (test : JsString → Bool) : Option Json → Option JsString
  | some (.string text) => if test text then some text else none
  | _ => none

def zLiteral (literal : JsString) : Option Json → Option Unit
  | some (.string text) => if text = literal then some () else none
  | _ => none

def zTrue : Option Json → Option Unit
  | some (.bool true) => some ()
  | _ => none

def zUrl (urls : JsUrls) (maximum : Nat) : Option Json → Option JsString
  | some (.string text) => (urls.check text).filter fun url => url.length ≤ maximum
  | _ => none

/-- `z.enum`; the alternatives are listed with their names. -/
def zEnum (name : α → JsString) (alternatives : List α) : Option Json → Option α
  | some (.string text) => alternatives.find? fun value => name value == text
  | _ => none

def zArray (item : Option Json → Option α) (minimum maximum : Nat) : Option Json → Option (List α)
  | some (.array items) =>
      if minimum ≤ items.length ∧ items.length ≤ maximum then
        items.mapM fun json => item (some json)
      else none
  | _ => none

def zOptional (check : Option Json → Option α) : Option Json → Option (Option α)
  | none => some none
  | some json => (check (some json)).map some

def zObject {κ : Type} (shape : ObjectShape κ) : Option Json → Option (κ → Option Json)
  | some json => shape.strictObject json
  | none => none

end Checks

/-! ## What is written is read -/

section Laws

variable {α : Type} {text : JsString}

section Bind

variable {β : Type} {x : Option α} {a : α} {f : α → Option β} {r : β}

theorem bind_known (h : x = some a) : (x >>= f) = some r ↔ f a = some r := by
  rw [h, Option.bind_eq_bind, Option.bind_some]

/-- A check that only asks for `P`. -/
theorem bind_read {P : Prop} (h : ∀ b, x = some b ↔ b = a ∧ P) :
    (x >>= f) = some r ↔ P ∧ f a = some r := by
  rw [Option.bind_eq_bind, Option.bind_eq_some_iff]
  constructor
  · rintro ⟨b, hb, hr⟩
    obtain ⟨rfl, hP⟩ := (h b).mp hb
    exact ⟨hP, hr⟩
  · rintro ⟨hP, hr⟩
    exact ⟨a, (h a).mpr ⟨rfl, hP⟩, hr⟩

end Bind

theorem zLiteral_self (literal : JsString) : zLiteral literal (some (.string literal)) = some () :=
  if_pos rfl

theorem zTrue_true : zTrue (some (.bool true)) = some () := rfl

theorem zString_eq_some {minimum maximum : Nat} {value : JsString} :
    zString minimum maximum (some (.string text)) = some value ↔
      value = text ∧ minimum ≤ text.length ∧ text.length ≤ maximum := by
  simp only [zString]
  split_ifs with h
  · exact ⟨fun heq => ⟨(Option.some.inj heq).symm, h⟩, fun heq => by rw [heq.1]⟩
  · exact ⟨nofun, fun heq => absurd heq.2 h⟩

theorem zMatching_eq_some {test : JsString → Bool} {value : JsString} :
    zMatching test (some (.string text)) = some value ↔ value = text ∧ test text = true := by
  simp only [zMatching]
  split_ifs with h
  · exact ⟨fun heq => ⟨(Option.some.inj heq).symm, h⟩, fun heq => by rw [heq.1]⟩
  · exact ⟨nofun, fun heq => absurd heq.2 h⟩

theorem zUrl_eq_some {urls : JsUrls} {maximum : Nat} {value : JsString} :
    zUrl urls maximum (some (.string text)) = some value ↔
      urls.check text = some value ∧ value.length ≤ maximum := by
  simp [zUrl, Option.filter_eq_some_iff]

theorem zEnum_name {name : α → JsString} {alternatives : List α}
    (hname : Function.Injective name) {value : α} (h : value ∈ alternatives) :
    zEnum name alternatives (some (.string (name value))) = some value := by
  simp only [zEnum]
  cases hfound : alternatives.find? fun other => name other == name value with
  | none =>
      rw [List.find?_eq_none] at hfound
      exact absurd (hfound value h) (by simp)
  | some other =>
      have hother := List.find?_some hfound
      exact congrArg some (hname (eq_of_beq hother))

theorem zArray_eq_some {item : Option Json → Option α} {write : α → Json} {P : α → Prop}
    (h : ∀ a b, item (some (write a)) = some b ↔ b = a ∧ P a) {minimum maximum : Nat}
    {as bs : List α} :
    zArray item minimum maximum (some (.array (as.map write))) = some bs ↔
      bs = as ∧ (minimum ≤ as.length ∧ as.length ≤ maximum) ∧ ∀ a ∈ as, P a := by
  have hread : ∀ as bs : List α, (as.map write).mapM (fun json => item (some json)) = some bs ↔
      bs = as ∧ ∀ a ∈ as, P a := by
    intro as
    induction as with
    | nil => simp [eq_comm]
    | cons a as ih =>
        intro bs
        simp only [List.map_cons, List.mapM_cons, Option.bind_eq_bind, Option.bind_eq_some_iff, h,
          ih, Option.pure_def, Option.some.injEq, List.forall_mem_cons]
        constructor
        · rintro ⟨b, ⟨rfl, ha⟩, bs, ⟨rfl, has⟩, rfl⟩
          exact ⟨rfl, ha, has⟩
        · rintro ⟨rfl, ha, has⟩
          exact ⟨a, ⟨rfl, ha⟩, as, ⟨rfl, has⟩, rfl⟩
  simp only [zArray, List.length_map]
  split_ifs with hbounds
  · simp only [hread, hbounds, and_self, true_and]
  · exact ⟨nofun, fun heq => absurd heq.2.1 hbounds⟩

theorem zOptional_eq_some {check : Option Json → Option α} {write : α → Json} {P : α → Prop}
    (h : ∀ a b, check (some (write a)) = some b ↔ b = a ∧ P a) {a b : Option α} :
    zOptional check (a.map write) = some b ↔ b = a ∧ ∀ value ∈ a, P value := by
  cases a with
  | none => simp [zOptional, eq_comm]
  | some value =>
      simp only [Option.map_some, zOptional, Option.map_eq_some_iff, h, Option.mem_some,
        forall_eq']
      constructor
      · rintro ⟨_, ⟨rfl, hvalue⟩, rfl⟩
        exact ⟨rfl, hvalue⟩
      · rintro ⟨rfl, hvalue⟩
        exact ⟨value, ⟨rfl, hvalue⟩, rfl⟩

end Laws

end X424
