import Mathlib.Logic.Function.Basic
import Mathlib.Order.Basic

/-!
# Tables whose entries expire

A cell holds a value until an instant; it is live strictly before that
instant.  A store may drop a dead cell eagerly, lazily or never: what a reader
at time `now` sees is `live now`, and the lemmas below say how the three
writing operations act on it.
-/

namespace X424.Foundation

abbrev Instant := Int

structure Cell (ν : Type*) where
  value : ν
  expiresAt : Instant
  deriving DecidableEq, Repr

abbrev Cells (κ : Type*) (ν : Type*) := κ → Option (Cell ν)

namespace Cells

variable {κ : Type*} {ν : Type*}

def empty : Cells κ ν := fun _ => none

/-- The cell a reader finds under a key at time `now`. -/
def live (cells : Cells κ ν) (now : Instant) (key : κ) : Option (Cell ν) :=
  (cells key).filter fun cell => now < cell.expiresAt

def put [DecidableEq κ] (cells : Cells κ ν) (key : κ) (cell : Cell ν) : Cells κ ν :=
  Function.update cells key (some cell)

def erase [DecidableEq κ] (cells : Cells κ ν) (key : κ) : Cells κ ν :=
  Function.update cells key none

/-- Drop every cell that is dead at `now`. -/
def prune (cells : Cells κ ν) (now : Instant) : Cells κ ν := cells.live now

@[simp] theorem live_empty (now : Instant) (key : κ) :
    (empty : Cells κ ν).live now key = none := rfl

theorem live_eq_some {cells : Cells κ ν} {now : Instant} {key : κ} {cell : Cell ν} :
    cells.live now key = some cell ↔
      cells key = some cell ∧ now < cell.expiresAt := by
  simp [live, Option.filter_eq_some_iff]

theorem live_eq_none {cells : Cells κ ν} {now : Instant} {key : κ} :
    cells.live now key = none ↔
      ∀ cell, cells key = some cell → cell.expiresAt ≤ now := by
  simp [live, Option.filter_eq_none_iff]

@[simp] theorem live_put_same [DecidableEq κ] (cells : Cells κ ν) (now : Instant)
    (key : κ) (cell : Cell ν) :
    (cells.put key cell).live now key =
      if now < cell.expiresAt then some cell else none := by
  simp [live, put, Option.filter]

theorem live_put_of_ne [DecidableEq κ] (cells : Cells κ ν) (now : Instant)
    {key other : κ} (cell : Cell ν) (h : other ≠ key) :
    (cells.put key cell).live now other = cells.live now other := by
  simp [live, put, Function.update_of_ne h]

@[simp] theorem live_erase_same [DecidableEq κ] (cells : Cells κ ν) (now : Instant)
    (key : κ) : (cells.erase key).live now key = none := by
  simp [live, erase]

theorem live_erase_of_ne [DecidableEq κ] (cells : Cells κ ν) (now : Instant)
    {key other : κ} (h : other ≠ key) :
    (cells.erase key).live now other = cells.live now other := by
  simp [live, erase, Function.update_of_ne h]

/-- A later reader of a pruned table sees what it would have seen without pruning. -/
theorem live_prune (cells : Cells κ ν) {now later : Instant} (h : now ≤ later)
    (key : κ) : (cells.prune now).live later key = cells.live later key := by
  unfold prune live
  cases cells key with
  | none => rfl
  | some cell =>
      by_cases hlater : later < cell.expiresAt
      · simp [Option.filter, hlater, Int.lt_of_le_of_lt h hlater]
      · by_cases hnow : now < cell.expiresAt <;> simp [Option.filter, hlater, hnow]

theorem live_of_later {cells : Cells κ ν} {now later : Instant} (h : now ≤ later)
    {key : κ} {cell : Cell ν} (hlive : cells.live later key = some cell) :
    cells.live now key = some cell := by
  rw [live_eq_some] at hlive ⊢
  exact ⟨hlive.1, Int.lt_of_le_of_lt h hlive.2⟩

theorem live_later {cells : Cells κ ν} {now later : Instant} (h : now ≤ later) {key : κ}
    {cell : Cell ν} :
    cells.live later key = some cell ↔
      cells.live now key = some cell ∧ later < cell.expiresAt := by
  simp only [live_eq_some]
  constructor
  · rintro ⟨hcell, hlater⟩
    exact ⟨⟨hcell, Int.lt_of_le_of_lt h hlater⟩, hlater⟩
  · rintro ⟨⟨hcell, _⟩, hlater⟩
    exact ⟨hcell, hlater⟩

/-! ## Agreement of two tables on some keys -/

/-- From `now` on, readers of these keys cannot tell the tables apart. -/
def AgreeOn (keys : κ → Prop) (now : Instant) (a b : Cells κ ν) : Prop :=
  ∀ key, keys key → ∀ time, now ≤ time → a.live time key = b.live time key

namespace AgreeOn

variable {keys : κ → Prop} {now : Instant} {a b : Cells κ ν}

theorem refl (keys : κ → Prop) (now : Instant) (a : Cells κ ν) : AgreeOn keys now a a :=
  fun _ _ _ _ => rfl

theorem later (h : AgreeOn keys now a b) {time : Instant} (htime : now ≤ time) :
    AgreeOn keys time a b :=
  fun key hkey t ht => h key hkey t (Int.le_trans htime ht)

theorem live_eq (h : AgreeOn keys now a b) {key : κ} (hkey : keys key) :
    a.live now key = b.live now key :=
  h key hkey now (Int.le_refl now)

theorem prune_left (h : AgreeOn keys now a b) : AgreeOn keys now (a.prune now) b := by
  intro key hkey time htime
  rw [live_prune a htime]
  exact h key hkey time htime

theorem prune (h : AgreeOn keys now a b) : AgreeOn keys now (a.prune now) (b.prune now) := by
  intro key hkey time htime
  rw [live_prune b htime]
  exact h.prune_left key hkey time htime

theorem put [DecidableEq κ] (h : AgreeOn keys now a b) (target : κ) (cell : Cell ν) :
    AgreeOn keys now (a.put target cell) (b.put target cell) := by
  intro key hkey time htime
  by_cases htarget : key = target
  · subst htarget
    rw [live_put_same, live_put_same]
  · rw [live_put_of_ne a time cell htarget, live_put_of_ne b time cell htarget]
    exact h key hkey time htime

theorem put_left [DecidableEq κ] (h : AgreeOn keys now a b) {target : κ} (cell : Cell ν)
    (htarget : ¬ keys target) : AgreeOn keys now (a.put target cell) b := by
  intro key hkey time htime
  have hne : key ≠ target := by
    rintro rfl
    exact htarget hkey
  rw [live_put_of_ne a time cell hne]
  exact h key hkey time htime

end AgreeOn

/-! ## Tables that stand for each other -/

section Related

variable {ι μ : Type*} {place : ι → κ} {R : Cell ν → Cell μ → Prop} {a : Cells κ ν}
  {b : Cells κ μ}

/-- Under each of the keys the tables hold nothing or cells that are related. -/
def Related (place : ι → κ) (R : Cell ν → Cell μ → Prop) (a : Cells κ ν) (b : Cells κ μ) : Prop :=
  ∀ i, Option.Rel R (a (place i)) (b (place i))

theorem Related.erase [DecidableEq κ] (h : Related place R a b)
    (hplace : Function.Injective place) (i : ι) :
    Related place R (a.erase (place i)) (b.erase (place i)) := by
  intro j
  by_cases hj : j = i
  · subst hj
    rw [Cells.erase, Cells.erase, Function.update_self, Function.update_self]
    exact .none
  · rw [Cells.erase, Cells.erase, Function.update_of_ne (hplace.ne hj),
      Function.update_of_ne (hplace.ne hj)]
    exact h j

theorem Related.put [DecidableEq κ] (h : Related place R a b)
    (hplace : Function.Injective place) (i : ι) {x : Cell ν} {y : Cell μ} (hxy : R x y) :
    Related place R (a.put (place i) x) (b.put (place i) y) := by
  intro j
  by_cases hj : j = i
  · subst hj
    rw [Cells.put, Cells.put, Function.update_self, Function.update_self]
    exact .some hxy
  · rw [Cells.put, Cells.put, Function.update_of_ne (hplace.ne hj),
      Function.update_of_ne (hplace.ne hj)]
    exact h j

theorem Related.live (h : Related place R a b)
    (hexpires : ∀ {x y}, R x y → x.expiresAt = y.expiresAt) (now : Instant) (i : ι) :
    Option.Rel R (a.live now (place i)) (b.live now (place i)) := by
  have hi := h i
  unfold Cells.live
  revert hi
  generalize a (place i) = x
  generalize b (place i) = y
  intro hi
  cases hi with
  | none => exact .none
  | some hxy =>
      simp only [Option.filter_some, hexpires hxy]
      split_ifs
      · exact .some hxy
      · exact .none

end Related

end Cells

end X424.Foundation
