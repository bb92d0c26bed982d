import X424.Foundation.Expiring

/-!
# Calls that leave no trace

A store that refuses a call may still tidy up.  Two states are the same from
an instant on if no later call can tell them apart; a refusal is quiet if it
leaves the state the same from the time the caller checked.
-/

namespace X424.Foundation

structure SameFrom {σ : Type*} (Same : Instant → σ → σ → Prop) : Prop where
  refl : ∀ now s, Same now s s
  later : ∀ {now time s t}, Same now s t → now ≤ time → Same time s t
  trans : ∀ {now s t u}, Same now s t → Same now t u → Same now s u

/-- `call c checkedAt now` is made with the time `checkedAt` and answered at `now`. -/
structure QuietRefusals {γ σ α : Type*} (call : γ → (checkedAt now : Instant) → σ → α × σ)
    (refused : α → Prop) (Same : Instant → σ → σ → Prop) : Prop where
  answer : ∀ {c checkedAt now s t}, checkedAt ≤ now → Same checkedAt s t →
    (call c checkedAt now s).1 = (call c checkedAt now t).1
  refused : ∀ {c checkedAt now s}, checkedAt ≤ now → refused (call c checkedAt now s).1 →
    Same checkedAt s (call c checkedAt now s).2

theorem sameFrom_eq {σ : Type*} : SameFrom fun (_ : Instant) (s t : σ) => s = t :=
  ⟨fun _ _ => rfl, fun h _ => h, fun h h' => h.trans h'⟩

theorem sameFrom_view {σ α : Type*} (view : Instant → σ → α) :
    SameFrom fun now s t => ∀ time, now ≤ time → view time s = view time t where
  refl _ _ _ _ := rfl
  later h hle time htime := h time (Int.le_trans hle htime)
  trans h h' time htime := (h time htime).trans (h' time htime)

theorem sameFrom_agreeOn {κ ν : Type*} :
    SameFrom (Cells.AgreeOn (κ := κ) (ν := ν) fun _ => True) where
  refl now s := Cells.AgreeOn.refl _ now s
  later h hle := h.later hle
  trans h h' key hkey time htime := (h key hkey time htime).trans (h' key hkey time htime)

theorem quietRefusals_eq {γ σ α : Type*}
    {call : γ → (checkedAt now : Instant) → σ → α × σ} {refused : α → Prop}
    (h : ∀ c checkedAt now s, refused (call c checkedAt now s).1 →
      (call c checkedAt now s).2 = s) :
    QuietRefusals call refused fun _ s t => s = t where
  answer _ hsame := by rw [hsame]
  refused _ hrefused := (h _ _ _ _ hrefused).symm

end X424.Foundation
