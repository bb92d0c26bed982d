import X424.Foundation.Expiring

/-!
# Servers side by side

A server answers one request at a time, at the time of the request.  Two
servers that are given the same requests at the same times are one server with
a pair of states and a pair of answers, so that what relates their answers is
proved as an invariant of the pair.
-/

namespace X424.Foundation

structure Server (σ ρ α : Type*) where
  answer : (now : Instant) → ρ → σ → α × σ

namespace Server

variable {σ τ ρ α β : Type*}

def answers (S : Server σ ρ α) : σ → List (Instant × ρ) → List α
  | _, [] => []
  | s, (now, request) :: rest =>
      (S.answer now request s).1 :: S.answers (S.answer now request s).2 rest

def prod (S : Server σ ρ α) (T : Server τ ρ β) : Server (σ × τ) ρ (α × β) where
  answer now request s :=
    (((S.answer now request s.1).1, (T.answer now request s.2).1),
      ((S.answer now request s.1).2, (T.answer now request s.2).2))

/-- The times do not decrease from `time` on, and every request meets the guard
in the state in which it comes. -/
def Along (S : Server σ ρ α) (guard : Instant → ρ → σ → Prop) :
    (time : Instant) → σ → List (Instant × ρ) → Prop
  | _, _, [] => True
  | time, s, (now, request) :: rest =>
      time ≤ now ∧ guard now request s ∧ S.Along guard now (S.answer now request s).2 rest

variable {S : Server σ ρ α} {guard : Instant → ρ → σ → Prop}

theorem forall_answers_at {I : Instant → σ → Prop} {P : α → Prop}
    (hstep : ∀ {time now request s}, I time s → time ≤ now → guard now request s →
      P (S.answer now request s).1 ∧ I now (S.answer now request s).2)
    {time : Instant} {s : σ} {requests : List (Instant × ρ)} (hs : I time s)
    (halong : S.Along guard time s requests) : ∀ a ∈ S.answers s requests, P a := by
  induction requests generalizing time s with
  | nil => exact fun a ha => nomatch ha
  | cons head rest ih =>
      obtain ⟨now, request⟩ := head
      obtain ⟨hle, hguard, hrest⟩ := halong
      obtain ⟨hanswer, hnext⟩ := hstep hs hle hguard
      intro a ha
      rcases List.mem_cons.mp ha with rfl | ha
      · exact hanswer
      · exact ih hnext hrest a ha

theorem forall_answers {I : σ → Prop} {P : α → Prop}
    (hstep : ∀ {now request s}, I s → guard now request s →
      P (S.answer now request s).1 ∧ I (S.answer now request s).2)
    {time : Instant} {s : σ} {requests : List (Instant × ρ)} (hs : I s)
    (halong : S.Along guard time s requests) : ∀ a ∈ S.answers s requests, P a := by
  exact forall_answers_at (I := fun _ => I) (fun h _ hguard => hstep h hguard) hs halong

end Server

end X424.Foundation
