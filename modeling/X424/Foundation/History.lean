import Mathlib.Data.List.Forall2
import Mathlib.Data.List.Pairwise

/-!
# Histories of atomic objects

An atomic object answers one call at a time.  Since its calls do not overlap,
every interleaving of the calls of several parties is a list of calls, and the
object's behaviour is the list of answers.  Two objects are compared by a
relation between their states that every call keeps.
-/

namespace X424.Foundation

variable {σ τ γ δ α β : Type*}

def history (call : γ → σ → α × σ) : σ → List γ → List (γ × α)
  | _, [] => []
  | s, c :: cs => (c, (call c s).1) :: history call (call c s).2 cs

def afterCalls (call : γ → σ → α × σ) : σ → List γ → σ
  | s, [] => s
  | s, c :: cs => afterCalls call (call c s).2 cs

theorem history_simulation {call : γ → σ → α × σ} {call' : δ → τ → β × τ}
    (abstract : γ → δ) (agree : α → β → Prop) (R : List γ → σ → τ → Prop)
    (hstep : ∀ c cs s t, R (c :: cs) s t →
      agree (call c s).1 (call' (abstract c) t).1 ∧
        R cs (call c s).2 (call' (abstract c) t).2)
    {cs : List γ} {s : σ} {t : τ} (h : R cs s t) :
    List.Forall₂ (fun e e' => e'.1 = abstract e.1 ∧ agree e.2 e'.2)
      (history call s cs) (history call' t (cs.map abstract)) := by
  induction cs generalizing s t with
  | nil => exact List.Forall₂.nil
  | cons c cs ih =>
      obtain ⟨hagree, hrest⟩ := hstep c cs s t h
      exact List.Forall₂.cons ⟨rfl, hagree⟩ (ih hrest)

theorem pairwise_of_forall₂ {R : α → β → Prop} {P : β → β → Prop} {Q : α → α → Prop}
    (hPQ : ∀ a a' b b', R a b → R a' b' → P b b' → Q a a')
    {as : List α} {bs : List β} (h : List.Forall₂ R as bs) (hP : bs.Pairwise P) :
    as.Pairwise Q := by
  induction h with
  | nil => exact List.Pairwise.nil
  | cons hab htail ih =>
      obtain ⟨hhead, hrest⟩ := List.pairwise_cons.mp hP
      refine List.Pairwise.cons (fun a' ha' => ?_) (ih hrest)
      obtain ⟨n, hn, rfl⟩ := List.mem_iff_getElem.mp ha'
      have hlen := htail.length_eq
      exact hPQ _ _ _ _ hab (htail.get hn (hlen ▸ hn))
        (hhead _ (List.getElem_mem (hlen ▸ hn)))

/-! ## Logs -/

section Log

variable {P : List α → α → Prop} {log later earlier : List α} {entry : α}

/-- Every entry of a log, the last one first, has the property with the entries before it. -/
def EachAfter (P : List α → α → Prop) : List α → Prop
  | [] => True
  | entry :: earlier => P earlier entry ∧ EachAfter P earlier

theorem EachAfter.at (h : EachAfter P (later ++ entry :: earlier)) : P earlier entry := by
  induction later with
  | nil => exact h.1
  | cons _ later ih => exact ih h.2

theorem EachAfter.of_append (h : EachAfter P (later ++ earlier)) : EachAfter P earlier := by
  induction later with
  | nil => exact h
  | cons _ later ih => exact ih h.2

theorem EachAfter.of_mem (h : EachAfter P log) (hentry : entry ∈ log) :
    ∃ later earlier, log = later ++ entry :: earlier ∧ P earlier entry := by
  obtain ⟨later, earlier, rfl⟩ := List.append_of_mem hentry
  exact ⟨later, earlier, rfl, h.at⟩

end Log

end X424.Foundation
