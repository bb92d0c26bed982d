/-!
# Computations that throw

A computation may throw at any point, and what it has done to the state before
stays.  `Keeps` says that an assertion about the state survives a computation
however it ends; loops and sequences keep what their parts keep.
-/

namespace X424.Foundation

/-- A computation on a state that may throw; the state is not rolled back. -/
abbrev Effect (ε σ α : Type) := ExceptT ε (StateM σ) α

namespace Effect

variable {ε σ α β γ : Type}

def result (x : Effect ε σ α) (s : σ) : Except ε α := (x.run.run s).1

def after (x : Effect ε σ α) (s : σ) : σ := (x.run.run s).2

variable {x : Effect ε σ α} {f : α → Effect ε σ β} {s : σ}

@[simp] theorem result_pure (a : α) : (pure a : Effect ε σ α).result s = .ok a := rfl

@[simp] theorem after_pure (a : α) : (pure a : Effect ε σ α).after s = s := rfl

@[simp] theorem result_modify (g : σ → σ) : (modify g : Effect ε σ Unit).result s = .ok () := rfl

@[simp] theorem after_modify (g : σ → σ) : (modify g : Effect ε σ Unit).after s = g s := rfl

@[simp] theorem result_get_bind (g : σ → Effect ε σ β) :
    (get >>= g : Effect ε σ β).result s = (g s).result s := rfl

@[simp] theorem after_get_bind (g : σ → Effect ε σ β) :
    (get >>= g : Effect ε σ β).after s = (g s).after s := rfl

theorem run_bind (x : Effect ε σ α) (f : α → Effect ε σ β) (s : σ) :
    (x >>= f).run.run s =
      match x.run.run s with
      | (.ok a, t) => (f a).run.run t
      | (.error e, t) => (.error e, t) := by
  change (do let r ← x.run; ExceptT.bindCont f r : StateM σ _).run s = _
  rw [StateT.run_bind]
  cases x.run.run s with
  | mk r t => cases r <;> rfl

theorem result_bind_ok {a : α} (h : x.result s = .ok a) :
    (x >>= f).result s = (f a).result (x.after s) := by
  rw [result, run_bind]
  cases hx : x.run.run s with
  | mk r t =>
      rw [result, hx] at h
      rw [after, hx]
      subst h
      rfl

theorem after_bind_ok {a : α} (h : x.result s = .ok a) :
    (x >>= f).after s = (f a).after (x.after s) := by
  rw [after, run_bind]
  cases hx : x.run.run s with
  | mk r t =>
      have hafter : x.after s = t := by rw [after, hx]
      rw [result, hx] at h
      rw [hafter]
      subst h
      rfl

theorem result_bind_error {e : ε} (h : x.result s = .error e) :
    (x >>= f).result s = .error e := by
  rw [result, run_bind]
  cases hx : x.run.run s with
  | mk r t =>
      rw [result, hx] at h
      subst h
      rfl

theorem after_bind_error {e : ε} (h : x.result s = .error e) :
    (x >>= f).after s = x.after s := by
  rw [after, run_bind]
  cases hx : x.run.run s with
  | mk r t =>
      rw [result, hx] at h
      rw [after, hx]
      subst h
      rfl

theorem result_bind_eq_ok {b : β} (h : (x >>= f).result s = .ok b) :
    ∃ a, x.result s = .ok a ∧ (f a).result (x.after s) = .ok b := by
  cases hx : x.result s with
  | error e =>
      rw [result_bind_error hx] at h
      cases h
  | ok a => exact ⟨a, rfl, (result_bind_ok hx).symm.trans h⟩

/-! ## Assertions -/

/-- The assertion holds after the computation if it did before, also when it throws. -/
def Keeps (P : σ → Prop) (x : Effect ε σ α) : Prop := ∀ s, P s → P (x.after s)

namespace Keeps

variable {P : σ → Prop}

theorem pure (a : α) : Keeps P (pure a : Effect ε σ α) := fun _ h => h

theorem throw (e : ε) : Keeps P (throw e : Effect ε σ α) := fun _ h => h

theorem get_bind {g : σ → Effect ε σ β} (h : ∀ s, P s → P ((g s).after s)) :
    Keeps P (get >>= g) := h

theorem bind (hx : Keeps P x) (hf : ∀ a, Keeps P (f a)) : Keeps P (x >>= f) := by
  intro s hs
  cases h : x.result s with
  | ok a =>
      rw [after_bind_ok h]
      exact hf a _ (hx s hs)
  | error e =>
      rw [after_bind_error h]
      exact hx s hs

theorem forM {items : List γ} {g : γ → Effect ε σ PUnit} (h : ∀ item ∈ items, Keeps P (g item)) :
    Keeps P (items.forM g) := by
  induction items with
  | nil => exact fun _ hs => hs
  | cons item items ih =>
      exact bind (h item List.mem_cons_self) fun _ =>
        ih fun next hnext => h next (List.mem_cons_of_mem _ hnext)

end Keeps

theorem forM_achieves {P : σ → Prop} {items : List γ} {item : γ} {g : γ → Effect ε σ PUnit}
    (hkeeps : ∀ item ∈ items, Keeps P (g item)) (hitem : item ∈ items)
    {Q : σ → Prop} (hQ : ∀ item ∈ items, Keeps Q (g item)) (hs : Q s)
    (hround : ∀ t, Q t → (g item).result t = .ok () → P ((g item).after t))
    (hresult : (items.forM g).result s = .ok ()) : P ((items.forM g).after s) := by
  induction items generalizing s with
  | nil => cases hitem
  | cons first items ih =>
      obtain ⟨⟨⟩, hfirst, hrest⟩ := result_bind_eq_ok hresult
      have hafter : ((first :: items).forM g).after s = (items.forM g).after ((g first).after s) :=
        after_bind_ok hfirst
      rw [hafter]
      rcases List.mem_cons.mp hitem with rfl | hitem
      · exact Keeps.forM (fun next hnext => hkeeps next (List.mem_cons_of_mem _ hnext)) _
          (hround s hs hfirst)
      · exact ih (fun next hnext => hkeeps next (List.mem_cons_of_mem _ hnext)) hitem
          (fun next hnext => hQ next (List.mem_cons_of_mem _ hnext))
          (hQ first List.mem_cons_self s hs) hrest

/-- Two loops over the same items in lockstep; the relation knows what is left to do. -/
theorem forM_lockstep {τ : Type} {R : List γ → σ → τ → Prop} {g : γ → Effect ε σ PUnit}
    {k : γ → Effect ε τ PUnit}
    (hstep : ∀ item items s t, R (item :: items) s t →
      (g item).result s = .ok () ∧ (k item).result t = .ok () ∧
        R items ((g item).after s) ((k item).after t))
    {items : List γ} {s : σ} {t : τ} (h : R items s t) :
    (items.forM g).result s = .ok () ∧ (items.forM k).result t = .ok () ∧
      R [] ((items.forM g).after s) ((items.forM k).after t) := by
  induction items generalizing s t with
  | nil => exact ⟨rfl, rfl, h⟩
  | cons item items ih =>
      obtain ⟨hg, hk, hnext⟩ := hstep item items s t h
      obtain ⟨hgs, hks, hend⟩ := ih hnext
      refine ⟨(result_bind_ok hg).trans hgs, (result_bind_ok hk).trans hks, ?_⟩
      have hgAfter : ((item :: items).forM g).after s = (items.forM g).after ((g item).after s) :=
        after_bind_ok hg
      have hkAfter : ((item :: items).forM k).after t = (items.forM k).after ((k item).after t) :=
        after_bind_ok hk
      rw [hgAfter, hkAfter]
      exact hend

end Effect

end X424.Foundation
