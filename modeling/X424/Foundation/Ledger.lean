import Mathlib.Data.List.Pairwise
import X424.Foundation.Expiring
import X424.Foundation.History

/-!
# Write-once ledgers

A ledger binds each key at most once.  A claim asks for a key and offers a
binding: it is `fresh` when it binds the key, `same` when the key is already
bound to what it offers and `other` when it is bound to something else.  A
claim may name an alias, an older key whose binding takes precedence as long
as it has not expired.

The results are about whole histories.  Only one claim of a key is ever fresh;
claims of one key that succeed agree on the binding; and an unexpired alias
decides every claim that names it.
-/

namespace X424.Foundation

inductive Verdict where
  | fresh
  | same
  | other
  deriving DecidableEq, Repr

def Verdict.accepted : Verdict → Bool
  | .fresh | .same => true
  | .other => false

structure Claim (κ : Type*) (β : Type*) where
  key : κ
  older : Option κ
  binding : β
  time : Instant
  deriving DecidableEq, Repr

abbrev Ledger (κ : Type*) (β : Type*) := κ → Option β

namespace Ledger

variable {κ : Type*} {β : Type*} [DecidableEq κ] [DecidableEq β]

def empty : Ledger κ β := fun _ => none

def deciding (ledger : Ledger κ β) (expiry : κ → Instant) (claim : Claim κ β) : Option β :=
  (claim.older.bind fun key => if claim.time < expiry key then ledger key else none).or
    (ledger claim.key)

def claim (ledger : Ledger κ β) (expiry : κ → Instant) (c : Claim κ β) :
    Verdict × Ledger κ β :=
  match ledger.deciding expiry c with
  | some binding => (if binding = c.binding then .same else .other, ledger)
  | none => (.fresh, Function.update ledger c.key (some c.binding))

/-- Claims that `admits` refuses are answered `other` and change nothing. -/
def answer (admits : Claim κ β → Bool) (expiry : κ → Instant) (ledger : Ledger κ β)
    (c : Claim κ β) : Verdict × Ledger κ β :=
  if admits c then ledger.claim expiry c else (.other, ledger)

abbrev verdicts (admits : Claim κ β → Bool) (expiry : κ → Instant) (ledger : Ledger κ β)
    (claims : List (Claim κ β)) : List (Claim κ β × Verdict) :=
  history (fun c ledger => ledger.answer admits expiry c) ledger claims

section Step

variable {ledger : Ledger κ β} {admits : Claim κ β → Bool} {expiry : κ → Instant}
  {c : Claim κ β}

theorem answer_cases (ledger : Ledger κ β) (admits : Claim κ β → Bool)
    (expiry : κ → Instant) (c : Claim κ β) :
    ledger.answer admits expiry c = (.other, ledger) ∨
    (ledger.deciding expiry c = some c.binding ∧
      ledger.answer admits expiry c = (.same, ledger)) ∨
    (ledger.deciding expiry c = none ∧
      ledger.answer admits expiry c =
        (.fresh, Function.update ledger c.key (some c.binding))) := by
  unfold answer claim
  by_cases hadmits : admits c
  · cases hdeciding : ledger.deciding expiry c with
    | none => exact Or.inr (Or.inr ⟨rfl, by simp [hadmits]⟩)
    | some binding =>
        by_cases hsame : binding = c.binding
        · subst hsame
          exact Or.inr (Or.inl ⟨rfl, by simp [hadmits]⟩)
        · exact Or.inl (by simp [hadmits, hsame])
  · exact Or.inl (by simp [hadmits])

omit [DecidableEq κ] [DecidableEq β] in
theorem key_unbound_of_deciding_none (h : ledger.deciding expiry c = none) :
    ledger c.key = none := by
  simp only [deciding, Option.or_eq_none_iff] at h
  exact h.2

theorem answer_keeps {key : κ} {binding : β} (h : ledger key = some binding) :
    (ledger.answer admits expiry c).2 key = some binding := by
  rcases ledger.answer_cases admits expiry c with heq | ⟨_, heq⟩ | ⟨hnone, heq⟩
  · rw [heq]
    exact h
  · rw [heq]
    exact h
  · rw [heq]
    have hne : key ≠ c.key := by
      rintro rfl
      rw [key_unbound_of_deciding_none hnone] at h
      cases h
    simpa [Function.update_of_ne hne] using h

theorem answer_of_ne {key : κ} (h : key ≠ c.key) :
    (ledger.answer admits expiry c).2 key = ledger key := by
  rcases ledger.answer_cases admits expiry c with heq | ⟨_, heq⟩ | ⟨_, heq⟩ <;>
    simp [heq, Function.update_of_ne h]

theorem answer_ne_fresh_of_bound {binding : β} (h : ledger c.key = some binding) :
    (ledger.answer admits expiry c).1 ≠ .fresh := by
  rcases ledger.answer_cases admits expiry c with heq | ⟨_, heq⟩ | ⟨hnone, heq⟩
  · simp [heq]
  · simp [heq]
  · rw [key_unbound_of_deciding_none hnone] at h
    cases h

theorem bound_of_fresh (h : (ledger.answer admits expiry c).1 = .fresh) :
    (ledger.answer admits expiry c).2 c.key = some c.binding := by
  rcases ledger.answer_cases admits expiry c with heq | ⟨_, heq⟩ | ⟨_, heq⟩
  · simp [heq] at h
  · simp [heq] at h
  · simp [heq]

end Step

section History

variable {admits : Claim κ β → Bool} {expiry : κ → Instant}

theorem verdict_ne_fresh_of_bound {ledger : Ledger κ β} {claims : List (Claim κ β)}
    {key : κ} {binding : β} (hbound : ledger key = some binding)
    {c : Claim κ β} {verdict : Verdict}
    (h : (c, verdict) ∈ verdicts admits expiry ledger claims) (hkey : c.key = key) :
    verdict ≠ .fresh := by
  induction claims generalizing ledger with
  | nil => cases h
  | cons d claims ih =>
      simp only [verdicts, history, List.mem_cons, Prod.mk.injEq] at h
      rcases h with ⟨rfl, rfl⟩ | htail
      · have hc : ledger c.key = some binding := hkey ▸ hbound
        exact answer_ne_fresh_of_bound hc
      · exact ih (answer_keeps hbound) htail

theorem fresh_once (ledger : Ledger κ β) (claims : List (Claim κ β)) :
    (verdicts admits expiry ledger claims).Pairwise fun earlier later =>
      earlier.1.key = later.1.key → earlier.2 = .fresh → later.2 ≠ .fresh := by
  induction claims generalizing ledger with
  | nil => exact List.Pairwise.nil
  | cons c claims ih =>
      refine List.Pairwise.cons ?_ (ih _)
      rintro ⟨d, verdict⟩ hmem hkey hfresh
      exact verdict_ne_fresh_of_bound (bound_of_fresh hfresh) hmem hkey.symm

theorem alias_decides (ledger : Ledger κ β) (claims : List (Claim κ β)) :
    (verdicts admits expiry ledger claims).Pairwise fun earlier later =>
      earlier.2 = .fresh → later.1.older = some earlier.1.key →
      later.1.time < expiry earlier.1.key →
      later.2 ≠ .fresh ∧ (later.2 = .same → later.1.binding = earlier.1.binding) := by
  have htail : ∀ (claims : List (Claim κ β)) (ledger : Ledger κ β) (key : κ) (binding : β),
      ledger key = some binding → ∀ later ∈ verdicts admits expiry ledger claims,
        later.1.older = some key → later.1.time < expiry key →
        later.2 ≠ .fresh ∧ (later.2 = .same → later.1.binding = binding) := by
    intro claims
    induction claims with
    | nil => simp [verdicts, history]
    | cons c claims ih =>
        intro ledger key binding hbound later hmem halias htime
        simp only [verdicts, history, List.mem_cons] at hmem
        rcases hmem with rfl | hmem
        · change c.older = some key at halias
          change c.time < expiry key at htime
          have hdeciding : ledger.deciding expiry c = some binding := by
            simp only [deciding, halias, Option.bind_some, if_pos htime, hbound,
              Option.some_or]
          rcases ledger.answer_cases admits expiry c with heq | ⟨hsome, heq⟩ | ⟨hnone, _⟩
          · simp [heq]
          · rw [hdeciding, Option.some.injEq] at hsome
            simp [heq, hsome]
          · rw [hdeciding] at hnone
            cases hnone
        · exact ih _ key binding (answer_keeps hbound) later hmem halias htime
  induction claims generalizing ledger with
  | nil => exact List.Pairwise.nil
  | cons c claims ih =>
      refine List.Pairwise.cons ?_ (ih _)
      intro later hmem hfresh halias htime
      exact htail claims _ c.key c.binding (bound_of_fresh hfresh) later hmem halias htime

end History

/-- How a history of claims uses the keys: every key has one alias or none,
an alias has none itself, claims come before their key expires, in the order
of the clock, and an alias is not claimed after a claim that named it. -/
structure WellUsed (expiry : κ → Instant) (aliasOf : κ → Option κ)
    (claims : List (Claim κ β)) : Prop where
  alias_eq : ∀ c ∈ claims, c.older = aliasOf c.key
  alias_plain : ∀ key older, aliasOf key = some older → aliasOf older = none
  in_time : ∀ c ∈ claims, c.time < expiry c.key
  ordered : claims.Pairwise fun earlier later =>
    earlier.time ≤ later.time ∧ earlier.older ≠ some later.key

namespace WellUsed

variable {expiry : κ → Instant} {aliasOf : κ → Option κ} {c : Claim κ β}
  {claims : List (Claim κ β)}

omit [DecidableEq κ] [DecidableEq β] in
theorem tail (h : WellUsed expiry aliasOf (c :: claims)) :
    WellUsed expiry aliasOf claims where
  alias_eq d hd := h.alias_eq d (List.mem_cons_of_mem c hd)
  alias_plain := h.alias_plain
  in_time d hd := h.in_time d (List.mem_cons_of_mem c hd)
  ordered := (List.pairwise_cons.mp h.ordered).2

end WellUsed

/-- Once a key is bound, its alias is claimed no more, and binds nothing unless
it has expired. -/
structure Settled (expiry : κ → Instant) (aliasOf : κ → Option κ) (ledger : Ledger κ β)
    (claims : List (Claim κ β)) : Prop where
  unclaimed : ∀ key older, aliasOf key = some older → ledger key ≠ none →
    ∀ c ∈ claims, c.key ≠ older
  unbound : ∀ key older, aliasOf key = some older → ledger key ≠ none →
    ∀ c ∈ claims, c.time < expiry older → ledger older = none

namespace Settled

omit [DecidableEq κ] [DecidableEq β] in
theorem empty {expiry : κ → Instant} {aliasOf : κ → Option κ} {claims : List (Claim κ β)} :
    Settled expiry aliasOf Ledger.empty claims where
  unclaimed _ _ _ h := (h rfl).elim
  unbound _ _ _ h := (h rfl).elim

theorem answer {expiry : κ → Instant} {aliasOf : κ → Option κ} {ledger : Ledger κ β}
    {c : Claim κ β} {claims : List (Claim κ β)} (admits : Claim κ β → Bool)
    (hused : WellUsed expiry aliasOf (c :: claims))
    (h : Settled expiry aliasOf ledger (c :: claims)) :
    Settled expiry aliasOf (ledger.answer admits expiry c).2 claims := by
  have hsame : Settled expiry aliasOf ledger claims :=
    { unclaimed := fun key older halias hkey d hd =>
        h.unclaimed key older halias hkey d (List.mem_cons_of_mem c hd)
      unbound := fun key older halias hkey d hd =>
        h.unbound key older halias hkey d (List.mem_cons_of_mem c hd) }
  rcases ledger.answer_cases admits expiry c with heq | ⟨_, heq⟩ | ⟨hnone, heq⟩
  · rwa [heq]
  · rwa [heq]
  · simp only [heq]
    have hordered := (List.pairwise_cons.mp hused.ordered).1
    have holder := hused.alias_eq c List.mem_cons_self
    refine ⟨fun key older halias hkey d hd => ?_, fun key older halias hkey d hd htime => ?_⟩
    · by_cases hck : key = c.key
      · subst hck
        rintro rfl
        exact (hordered d hd).2 (holder.trans halias)
      · rw [Function.update_of_ne hck] at hkey
        exact hsame.unclaimed key older halias hkey d hd
    · by_cases hck : key = c.key
      · subst hck
        have hne : older ≠ c.key := by
          rintro rfl
          rw [hused.alias_plain _ _ halias] at halias
          cases halias
        have hctime : c.time < expiry older :=
          Int.lt_of_le_of_lt (hordered d hd).1 htime
        rw [Function.update_of_ne hne]
        simp only [deciding, holder, halias, Option.bind_some, if_pos hctime,
          Option.or_eq_none_iff] at hnone
        exact hnone.1
      · rw [Function.update_of_ne hck] at hkey
        rw [Function.update_of_ne
          (h.unclaimed key older halias hkey c List.mem_cons_self).symm]
        exact hsame.unbound key older halias hkey d hd htime

end Settled

/-- What decides claims of `key`, whenever its alias outlives it. -/
private def known (ledger : Ledger κ β) (aliasOf : κ → Option κ) (key : κ) : Option β :=
  ((aliasOf key).bind ledger).or (ledger key)

omit [DecidableEq κ] [DecidableEq β] in
private theorem deciding_eq_known {ledger : Ledger κ β} {expiry : κ → Instant}
    {aliasOf : κ → Option κ} {c : Claim κ β} (halias : c.older = aliasOf c.key)
    (htime : c.time < expiry c.key)
    (houtlived : ∀ older, aliasOf c.key = some older → expiry c.key ≤ expiry older) :
    ledger.deciding expiry c = known ledger aliasOf c.key := by
  unfold deciding known
  rw [halias]
  cases holder : aliasOf c.key with
  | none => rfl
  | some older =>
      have : c.time < expiry older := Int.lt_of_lt_of_le htime (houtlived older holder)
      simp [this]

private theorem known_keeps {ledger : Ledger κ β} {admits : Claim κ β → Bool}
    {expiry : κ → Instant} {aliasOf : κ → Option κ} {c : Claim κ β} {key : κ} {binding : β}
    (hknown : known ledger aliasOf key = some binding)
    (hfrozen : aliasOf key ≠ some c.key) :
    known (ledger.answer admits expiry c).2 aliasOf key = some binding := by
  unfold known at hknown ⊢
  cases holder : aliasOf key with
  | none =>
      simp only [holder, Option.bind_none, Option.none_or] at hknown ⊢
      exact answer_keeps hknown
  | some older =>
      have hne : older ≠ c.key := by
        rintro rfl
        exact hfrozen holder
      simp only [holder, Option.bind_some, answer_of_ne hne] at hknown ⊢
      cases hbound : ledger older with
      | some bound => simpa [hbound] using hknown
      | none =>
          simp only [hbound, Option.none_or] at hknown ⊢
          exact answer_keeps hknown

private theorem accepted_of_known {admits : Claim κ β → Bool} {expiry : κ → Instant}
    {aliasOf : κ → Option κ} {key : κ} {binding : β} {claims : List (Claim κ β)}
    (houtlived : ∀ older, aliasOf key = some older → expiry key ≤ expiry older)
    (hfrozen : ∀ c ∈ claims, aliasOf key ≠ some c.key) :
    ∀ (ledger : Ledger κ β), WellUsed expiry aliasOf claims →
      known ledger aliasOf key = some binding →
      ∀ later ∈ verdicts admits expiry ledger claims, later.1.key = key →
        later.2.accepted → later.1.binding = binding := by
  induction claims with
  | nil => simp [verdicts, history]
  | cons c claims ih =>
      intro ledger hused hknown later hmem hkey haccepted
      simp only [verdicts, history, List.mem_cons] at hmem
      rcases hmem with rfl | hmem
      · have hdeciding : ledger.deciding expiry c = some binding := by
          rw [deciding_eq_known (hused.alias_eq c List.mem_cons_self)
            (hused.in_time c List.mem_cons_self) (hkey ▸ houtlived)]
          exact hkey ▸ hknown
        rcases ledger.answer_cases admits expiry c with heq | ⟨hsome, _⟩ | ⟨hnone, _⟩
        · simp [heq, Verdict.accepted] at haccepted
        · rw [hdeciding, Option.some.injEq] at hsome
          exact hsome.symm
        · rw [hdeciding] at hnone
          cases hnone
      · exact ih (fun d hd => hfrozen d (List.mem_cons_of_mem c hd)) _ hused.tail
          (known_keeps hknown (hfrozen c List.mem_cons_self)) later hmem hkey haccepted

theorem accepted_agree {admits : Claim κ β → Bool} {expiry : κ → Instant}
    {aliasOf : κ → Option κ} {claims : List (Claim κ β)} (hused : WellUsed expiry aliasOf claims)
    (ledger : Ledger κ β) :
    (verdicts admits expiry ledger claims).Pairwise fun earlier later =>
      earlier.1.key = later.1.key →
      (∀ older, earlier.1.older = some older → expiry earlier.1.key ≤ expiry older) →
      earlier.2.accepted → later.2.accepted →
      earlier.1.binding = later.1.binding := by
  induction claims generalizing ledger with
  | nil => exact List.Pairwise.nil
  | cons c claims ih =>
      refine List.Pairwise.cons ?_ (ih hused.tail _)
      intro later hmem hkey houtlived hearlier hlater
      have halias := hused.alias_eq c List.mem_cons_self
      change ∀ older, c.older = some older → expiry c.key ≤ expiry older at houtlived
      rw [halias] at houtlived
      have hnext : ∀ d ∈ claims, aliasOf c.key ≠ some d.key := by
        intro d hd
        rw [← halias]
        exact ((List.pairwise_cons.mp hused.ordered).1 d hd).2
      have hself : aliasOf c.key ≠ some c.key := by
        intro h
        rw [hused.alias_plain _ _ h] at h
        cases h
      -- after a successful claim its key is known to be bound to what it offered
      have hknown :
          known (ledger.answer admits expiry c).2 aliasOf c.key = some c.binding := by
        rcases ledger.answer_cases admits expiry c with heq | ⟨hsome, _⟩ | ⟨hnone, heq⟩
        · simp [heq, Verdict.accepted] at hearlier
        · rw [deciding_eq_known halias (hused.in_time c List.mem_cons_self)
            houtlived] at hsome
          exact known_keeps hsome hself
        · rw [deciding_eq_known halias (hused.in_time c List.mem_cons_self)
            houtlived] at hnone
          simp only [known, Option.or_eq_none_iff] at hnone
          rw [heq]
          unfold known
          cases holder : aliasOf c.key with
          | none => simp
          | some older =>
              have hne : older ≠ c.key := by
                rintro rfl
                exact hself holder
              rw [holder, Option.bind_some] at hnone
              simp [Function.update_of_ne hne, hnone.1]
      exact (accepted_of_known houtlived hnext _ hused.tail hknown later hmem hkey.symm
        hlater).symm

/-! ## Tables that hold a ledger -/

/--
A table of expiring cells holds a ledger at time `now`: the cell of a key
expires when the key does, and the cells of unexpired keys hold the encoded
bindings.  Nothing is said of what is left of an expired key.
-/
structure Represents {κ' ν : Type*} (place : κ → κ') (encode : β → ν)
    (expiry : κ → Instant) (now : Instant) (cells : Cells κ' ν) (ledger : Ledger κ β) :
    Prop where
  expiresAt : ∀ key cell, cells (place key) = some cell → cell.expiresAt = expiry key
  value : ∀ key, now < expiry key →
    (cells (place key)).map Cell.value = (ledger key).map encode

namespace Represents

variable {κ' ν : Type*} {place : κ → κ'} {encode : β → ν} {expiry : κ → Instant}
  {now : Instant} {cells : Cells κ' ν} {ledger : Ledger κ β}

omit [DecidableEq κ] [DecidableEq β] in
theorem empty : Represents place encode expiry now Cells.empty (Ledger.empty (β := β)) where
  expiresAt _ _ h := by cases h
  value _ _ := rfl

omit [DecidableEq κ] [DecidableEq β] in
theorem later (h : Represents place encode expiry now cells ledger) {time : Instant}
    (htime : now ≤ time) : Represents place encode expiry time cells ledger where
  expiresAt := h.expiresAt
  value key hkey := h.value key (Int.lt_of_le_of_lt htime hkey)

omit [DecidableEq κ] [DecidableEq β] in
theorem cell_eq (h : Represents place encode expiry now cells ledger) {key : κ}
    (hkey : now < expiry key) :
    cells (place key) = (ledger key).map fun binding => ⟨encode binding, expiry key⟩ := by
  have hvalue := h.value key hkey
  cases hcell : cells (place key) with
  | none =>
      rw [hcell, Option.map_none] at hvalue
      rw [eq_comm, Option.map_eq_none_iff] at hvalue ⊢
      exact hvalue
  | some cell =>
      rw [hcell, Option.map_some] at hvalue
      obtain ⟨binding, hbinding, hencode⟩ := Option.map_eq_some_iff.mp hvalue.symm
      rw [hbinding, Option.map_some, hencode, ← h.expiresAt key cell hcell]

omit [DecidableEq κ] [DecidableEq β] in
theorem live_eq (h : Represents place encode expiry now cells ledger) (key : κ) :
    cells.live now (place key) =
      (if now < expiry key then ledger key else none).map
        fun binding => ⟨encode binding, expiry key⟩ := by
  by_cases hkey : now < expiry key
  · rw [if_pos hkey, ← h.cell_eq hkey]
    cases hcell : cells (place key) with
    | none => simp [Cells.live, hcell]
    | some cell =>
        rw [Cells.live_eq_some]
        exact ⟨hcell, h.expiresAt key cell hcell ▸ hkey⟩
  · rw [if_neg hkey, Option.map_none, Cells.live_eq_none]
    intro cell hcell
    rw [h.expiresAt key cell hcell]
    exact Int.not_lt.mp hkey

omit [DecidableEq κ] [DecidableEq β] in
theorem live_eq_cell (h : Represents place encode expiry now cells ledger) {key : κ}
    (hkey : now < expiry key) : cells.live now (place key) = cells (place key) := by
  rw [h.live_eq, if_pos hkey, h.cell_eq hkey]

omit [DecidableEq κ] [DecidableEq β] in
theorem lookup (claim : Claim κ β)
    (h : Represents place encode expiry claim.time cells ledger)
    (hkey : claim.time < expiry claim.key) :
    ((claim.older.bind fun key => cells.live claim.time (place key)).or
        (cells.live claim.time (place claim.key))).map Cell.value =
      (ledger.deciding expiry claim).map encode := by
  unfold deciding
  rw [h.live_eq claim.key, if_pos hkey]
  cases claim.older with
  | none => simp [Function.comp_def]
  | some older =>
      simp only [Option.bind_some, h.live_eq]
      cases (if claim.time < expiry older then ledger older else none) <;>
        simp [Function.comp_def]

omit [DecidableEq κ] [DecidableEq β] in
theorem prune (h : Represents place encode expiry now cells ledger) :
    Represents place encode expiry now (cells.prune now) ledger where
  expiresAt key cell hcell := h.expiresAt key cell (Cells.live_eq_some.mp hcell).1
  value key hkey := by
    rw [Cells.prune, h.live_eq, if_pos hkey, Option.map_map]
    rfl

omit [DecidableEq β] in
theorem put [DecidableEq κ'] (h : Represents place encode expiry now cells ledger)
    (hplace : Function.Injective place) (key : κ) (binding : β) :
    Represents place encode expiry now
      (cells.put (place key) ⟨encode binding, expiry key⟩)
      (Function.update ledger key (some binding)) where
  expiresAt other cell hcell := by
    by_cases hother : other = key
    · subst hother
      simp only [Cells.put, Function.update_self, Option.some.injEq] at hcell
      rw [← hcell]
    · rw [Cells.put, Function.update_of_ne (hplace.ne hother)] at hcell
      exact h.expiresAt other cell hcell
  value other hkey := by
    by_cases hother : other = key
    · subst hother
      simp [Cells.put]
    · rw [Cells.put, Function.update_of_ne (hplace.ne hother),
        Function.update_of_ne hother]
      exact h.value other hkey

end Represents

end Ledger

end X424.Foundation
