import Mathlib.Data.List.Pairwise
import X424.Foundation.Expiring
import X424.Foundation.History

/-!
# Noninterference of atomic objects

An observer sees some of the calls of a history.  The unwinding conditions say
that states which look the same to the observer answer the calls it sees alike,
and that a call it does not see leaves the state looking the same.  Then the
calls it does not see can be purged from a history without changing what it
sees of it, so any two histories with the same visible calls show the observer
the same answers.

What an observer can see may depend on the time, since entries expire.
-/

namespace X424.Foundation

variable {σ γ α : Type*}

/-- The unwinding conditions, for the calls that `admits` selects. -/
structure Unwinding (call : γ → σ → α × σ) (time : γ → Instant) (admits : γ → Prop)
    (visible : γ → Bool) (Same : Instant → σ → σ → Prop) : Prop where
  refl : ∀ now s, Same now s s
  later : ∀ {now time s t}, Same now s t → now ≤ time → Same time s t
  seen : ∀ {c s t}, admits c → visible c = true → Same (time c) s t →
    (call c s).1 = (call c t).1 ∧ Same (time c) (call c s).2 (call c t).2
  hidden : ∀ {c s t}, admits c → visible c = false → Same (time c) s t →
    Same (time c) (call c s).2 t

namespace Unwinding

variable {call : γ → σ → α × σ} {time : γ → Instant} {admits : γ → Prop}
  {visible : γ → Bool} {Same : Instant → σ → σ → Prop}

theorem purge (h : Unwinding call time admits visible Same) {cs : List γ}
    (hadmits : ∀ c ∈ cs, admits c)
    (hclock : cs.Pairwise fun earlier later => time earlier ≤ time later)
    {s t : σ} (hsame : ∀ c ∈ cs, Same (time c) s t) :
    (history call s cs).filter (fun entry => visible entry.1) =
      history call t (cs.filter visible) := by
  induction cs generalizing s t with
  | nil => rfl
  | cons c cs ih =>
      obtain ⟨hfirst, hrest⟩ := List.pairwise_cons.mp hclock
      have hc := hadmits c List.mem_cons_self
      have hcs : ∀ d ∈ cs, admits d := fun d hd => hadmits d (List.mem_cons_of_mem c hd)
      have hnow := hsame c List.mem_cons_self
      cases hvisible : visible c with
      | true =>
          obtain ⟨hanswer, hnext⟩ := h.seen hc hvisible hnow
          rw [history, List.filter_cons_of_pos (by exact hvisible),
            List.filter_cons_of_pos hvisible, history, hanswer]
          rw [ih hcs hrest fun d hd => h.later hnext (hfirst d hd)]
      | false =>
          have hnext := h.hidden hc hvisible hnow
          rw [history, List.filter_cons_of_neg (by simp [hvisible]),
            List.filter_cons_of_neg (by simp [hvisible])]
          exact ih hcs hrest fun d hd => h.later hnext (hfirst d hd)

theorem noninterference (h : Unwinding call time admits visible Same) {left right : List γ}
    (hleft : ∀ c ∈ left, admits c) (hright : ∀ c ∈ right, admits c)
    (hclockLeft : left.Pairwise fun earlier later => time earlier ≤ time later)
    (hclockRight : right.Pairwise fun earlier later => time earlier ≤ time later)
    (hvisible : left.filter visible = right.filter visible) (s : σ) :
    (history call s left).filter (fun entry => visible entry.1) =
      (history call s right).filter fun entry => visible entry.1 := by
  rw [h.purge hleft hclockLeft fun c _ => h.refl (time c) s,
    h.purge hright hclockRight fun c _ => h.refl (time c) s, hvisible]

end Unwinding

end X424.Foundation
