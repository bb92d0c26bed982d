import Mathlib.Data.List.Basic
import Mathlib.Logic.Function.Basic
import Mathlib.Order.Basic

/-!
# Machines driven by events

A machine takes one event at a time.  Everything the environment may choose
(which party moves, what an external service answers, how far the clock
advances) is part of the event, so a run is determined by its list of events
and a statement about every interleaving is a statement about every list.

`Along` carries a guard through a run: it says that every step of the run was
taken in a state, and by an event, that the guard admits.
-/

namespace X424.Foundation

/-- A deterministic machine; `none` means that the event is not enabled. -/
structure Machine (σ : Type*) (ε : Type*) where
  step : σ → ε → Option σ

namespace Machine

variable {σ : Type*} {ε : Type*} (M : Machine σ ε)

def run : σ → List ε → Option σ
  | s, [] => some s
  | s, e :: es => (M.step s e).bind fun t => run t es

@[simp] theorem run_nil (s : σ) : M.run s [] = some s := rfl

theorem run_cons (s : σ) (e : ε) (es : List ε) :
    M.run s (e :: es) = (M.step s e).bind fun t => M.run t es := rfl

theorem run_cons_some {s u : σ} {e : ε} {es : List ε} :
    M.run s (e :: es) = some u ↔
      ∃ t, M.step s e = some t ∧ M.run t es = some u := by
  rw [run_cons, Option.bind_eq_some_iff]

theorem run_append (s : σ) (front back : List ε) :
    M.run s (front ++ back) = (M.run s front).bind fun t => M.run t back := by
  induction front generalizing s with
  | nil => rfl
  | cons e front ih =>
      rw [List.cons_append, run_cons, run_cons]
      cases M.step s e with
      | none => rfl
      | some t => exact ih t

/-- Every step of the run is taken in a state and by an event that meets the guard. -/
def Along (guard : σ → ε → Prop) : σ → List ε → Prop
  | _, [] => True
  | s, e :: es => guard s e ∧ ∀ t, M.step s e = some t → Along guard t es

theorem along_true (s : σ) (es : List ε) : M.Along (fun _ _ => True) s es := by
  induction es generalizing s with
  | nil => trivial
  | cons e es ih => exact ⟨trivial, fun t _ => ih t⟩

theorem invariant_along {guard : σ → ε → Prop} {I : σ → Prop}
    (hstep : ∀ s e t, I s → guard s e → M.step s e = some t → I t)
    {s t : σ} {es : List ε} (hs : I s) (hguard : M.Along guard s es)
    (hrun : M.run s es = some t) : I t := by
  induction es generalizing s with
  | nil =>
      cases hrun
      exact hs
  | cons e es ih =>
      obtain ⟨u, hu, hrest⟩ := M.run_cons_some.mp hrun
      exact ih (hstep s e u hs hguard.1 hu) (hguard.2 u hu) hrest

/-- When every step keeps `J` exactly if it meets the guard, a run keeps it exactly if all its
steps meet the guard. -/
theorem iff_along {guard : σ → ε → Prop} {I J : σ → Prop}
    (hI : ∀ s e t, I s → M.step s e = some t → I t)
    (hJ : ∀ s e t, I s → M.step s e = some t → (J t ↔ J s ∧ guard s e))
    {s t : σ} {es : List ε} (hs : I s) (hrun : M.run s es = some t) :
    J t ↔ J s ∧ M.Along guard s es := by
  induction es generalizing s with
  | nil =>
      cases hrun
      exact (and_iff_left trivial).symm
  | cons e es ih =>
      obtain ⟨u, hu, hrest⟩ := M.run_cons_some.mp hrun
      rw [ih (hI s e u hs hu) hrest, hJ s e u hs hu, and_assoc]
      refine and_congr_right fun _ => and_congr_right fun _ => ⟨?_, fun h => h u hu⟩
      rintro h v hv
      cases hu.symm.trans hv
      exact h

theorem along_imp {guard guard' : σ → ε → Prop} {I : σ → Prop} {P : ε → Prop}
    (hstep : ∀ s e t, I s → P e → guard s e → M.step s e = some t → I t)
    (himp : ∀ s e, I s → P e → guard s e → guard' s e) {s : σ} {es : List ε} (hs : I s)
    (hevents : ∀ e ∈ es, P e) (h : M.Along guard s es) : M.Along guard' s es := by
  induction es generalizing s with
  | nil => trivial
  | cons e es ih =>
      obtain ⟨he, hes⟩ := List.forall_mem_cons.mp hevents
      exact ⟨himp s e hs he h.1, fun t ht => ih (hstep s e t hs he h.1 ht) hes (h.2 t ht)⟩

theorem along_at {guard : σ → ε → Prop} {s t : σ} {front back : List ε} {e : ε}
    (h : M.Along guard s (front ++ e :: back)) (hrun : M.run s front = some t) : guard t e := by
  induction front generalizing s with
  | nil =>
      cases hrun
      exact h.1
  | cons e' front ih =>
      obtain ⟨u, hu, hrest⟩ := M.run_cons_some.mp hrun
      exact ih (h.2 u hu) hrest

def trace {ω : Type*} (note : σ → ε → List ω) : σ → List ε → List ω
  | _, [] => []
  | s, e :: es => note s e ++ ((M.step s e).map fun t => trace note t es).getD []

theorem invariant_trace {ω : Type*} {guard : σ → ε → Prop} {note : σ → ε → List ω}
    {I : σ → List ω → Prop}
    (hstep : ∀ s e t done, I s done → guard s e → M.step s e = some t → I t (done ++ note s e))
    {s t : σ} {es : List ε} {done : List ω} (hs : I s done) (hguard : M.Along guard s es)
    (hrun : M.run s es = some t) : I t (done ++ M.trace note s es) := by
  induction es generalizing s done with
  | nil =>
      cases hrun
      rwa [trace, List.append_nil]
  | cons e es ih =>
      obtain ⟨u, hu, hrest⟩ := M.run_cons_some.mp hrun
      have hnext := ih (hstep s e u done hs hguard.1 hu) (hguard.2 u hu) hrest
      rwa [trace, hu, Option.map_some, Option.getD_some, ← List.append_assoc]

theorem along_of_trace {ω : Type*} {note : σ → ε → List ω} {s : σ} {es : List ε}
    (h : M.trace note s es = []) : M.Along (fun s e => note s e = []) s es := by
  induction es generalizing s with
  | nil => trivial
  | cons e es ih =>
      obtain ⟨hfirst, hrest⟩ := List.append_eq_nil_iff.mp h
      refine ⟨hfirst, fun t ht => ih ?_⟩
      rwa [ht, Option.map_some, Option.getD_some] at hrest

theorem invariant_run {I : σ → Prop}
    (hstep : ∀ s e t, I s → M.step s e = some t → I t)
    {s t : σ} {es : List ε} (hs : I s) (hrun : M.run s es = some t) : I t :=
  M.invariant_along (fun s e t hI _ h => hstep s e t hI h) hs (M.along_true s es) hrun

/-- Two runs of which the second leaves some events out stay related if the steps
that both take and those that only the first takes keep the relation. -/
theorem run_filter {guard : σ → ε → Prop} {keep : ε → Bool} {R : σ → σ → Prop}
    (hkept : ∀ {s t e s'}, R s t → guard s e → keep e = true → M.step s e = some s' →
      ∃ t', M.step t e = some t' ∧ R s' t')
    (hdropped : ∀ {s t e s'}, R s t → guard s e → keep e = false → M.step s e = some s' → R s' t)
    {s t s' : σ} {es : List ε} (hR : R s t) (hguard : M.Along guard s es)
    (hrun : M.run s es = some s') :
    ∃ t', M.run t (es.filter keep) = some t' ∧ R s' t' := by
  induction es generalizing s t with
  | nil =>
      cases hrun
      exact ⟨t, rfl, hR⟩
  | cons e es ih =>
      obtain ⟨u, hu, hrest⟩ := M.run_cons_some.mp hrun
      cases hkeep : keep e with
      | true =>
          obtain ⟨v, hv, hnext⟩ := hkept hR hguard.1 hkeep hu
          obtain ⟨t', ht', hend⟩ := ih hnext (hguard.2 u hu) hrest
          rw [List.filter_cons_of_pos hkeep]
          exact ⟨t', M.run_cons_some.mpr ⟨v, hv, ht'⟩, hend⟩
      | false =>
          rw [List.filter_cons_of_neg (by simp [hkeep])]
          exact ih (hdropped hR hguard.1 hkeep hu) (hguard.2 u hu) hrest

/-- `t` is reached from `s` by a run that meets the guard at every step. -/
def Reaches (guard : σ → ε → Prop) (s t : σ) : Prop :=
  ∃ es, M.Along guard s es ∧ M.run s es = some t

variable {M}

theorem Reaches.refl {guard : σ → ε → Prop} (s : σ) : M.Reaches guard s s :=
  ⟨[], trivial, rfl⟩

theorem Reaches.head {guard : σ → ε → Prop} {s t u : σ} {e : ε}
    (hguard : guard s e) (hstep : M.step s e = some t)
    (hrest : M.Reaches guard t u) : M.Reaches guard s u := by
  obtain ⟨es, halong, hrun⟩ := hrest
  refine ⟨e :: es, ⟨hguard, fun v hv => ?_⟩, M.run_cons_some.mpr ⟨t, hstep, hrun⟩⟩
  rw [hstep] at hv
  cases hv
  exact halong

theorem Reaches.invariant {guard : σ → ε → Prop} {I : σ → Prop}
    (hstep : ∀ s e t, I s → guard s e → M.step s e = some t → I t)
    {s t : σ} (hs : I s) (h : M.Reaches guard s t) : I t := by
  obtain ⟨es, halong, hrun⟩ := h
  exact M.invariant_along hstep hs halong hrun

end Machine

end X424.Foundation
