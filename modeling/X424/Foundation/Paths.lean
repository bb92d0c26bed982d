import Mathlib.Data.List.Basic

/-!
# Paths

A path is a list of segments, each written behind a separator that occurs in
none of them.  One path lies under another exactly when its segments continue
the other's.
-/

namespace X424.Foundation.Paths

variable {α : Type*} (slash : α)

def render (segments : List (List α)) : List α := segments.flatMap fun segment => slash :: segment

theorem render_cons (segment : List α) (segments : List (List α)) :
    render slash (segment :: segments) = slash :: (segment ++ render slash segments) :=
  List.flatMap_cons

theorem render_append (front back : List (List α)) :
    render slash (front ++ back) = render slash front ++ render slash back :=
  List.flatMap_append

theorem render_eq_intercalate {segments : List (List α)} (h : segments ≠ []) :
    render slash segments = slash :: [slash].intercalate segments := by
  induction segments with
  | nil => exact absurd rfl h
  | cons segment segments ih =>
      cases segments with
      | nil =>
          rw [render_cons, List.intercalate_singleton, render, List.flatMap_nil, List.append_nil]
      | cons next segments =>
          rw [render_cons, ih (List.cons_ne_nil _ _), List.intercalate_cons_cons, List.append_assoc,
            List.singleton_append]

theorem render_eq_nil {segments : List (List α)} : render slash segments = [] ↔ segments = [] := by
  cases segments with
  | nil => exact iff_of_true rfl rfl
  | cons segment segments =>
      rw [render_cons]
      exact iff_of_false (List.cons_ne_nil _ _) (List.cons_ne_nil _ _)

variable {slash}

theorem head_render {segments : List (List α)} {u : α}
    (h : (render slash segments).head? = some u) :
    u = slash := by
  cases segments with
  | nil => cases h
  | cons segment segments => exact (Option.some.inj h).symm

theorem append_cons_eq_append_cons {front front' back back' : List α} :
    front ++ slash :: back = front' ++ slash :: back' ↔
      (front = front' ∧ back = back') ∨
        (∃ more, front' = front ++ slash :: more ∧ back = more ++ slash :: back') ∨
          ∃ more, front = front' ++ slash :: more ∧ back' = more ++ slash :: back := by
  constructor
  · intro h
    rcases List.append_eq_append_iff.mp h with ⟨tail, hfront, hback⟩ | ⟨tail, hfront, hback⟩
    · cases tail with
      | nil => exact .inl ⟨by rw [hfront, List.append_nil], (List.cons.inj hback).2⟩
      | cons u more =>
          obtain ⟨rfl, htail⟩ := List.cons.inj hback
          exact .inr (.inl ⟨more, hfront, htail⟩)
    · cases tail with
      | nil => exact .inl ⟨by rw [hfront, List.append_nil], (List.cons.inj hback).2.symm⟩
      | cons u more =>
          obtain ⟨rfl, htail⟩ := List.cons.inj hback
          exact .inr (.inr ⟨more, hfront, htail⟩)
  · rintro (⟨rfl, rfl⟩ | ⟨more, rfl, rfl⟩ | ⟨more, rfl, rfl⟩) <;> simp

theorem append_cons_ne_append_cons {u v : α} {front front' back back' : List α} (hne : u ≠ v)
    (h : v ∉ front) (h' : u ∉ front') : front ++ u :: back ≠ front' ++ v :: back' := by
  intro heq
  rcases List.append_eq_append_iff.mp heq with ⟨tail, hfront, hback⟩ | ⟨tail, hfront, hback⟩
  · cases tail with
    | nil => exact hne (List.cons.inj hback).1
    | cons w more =>
        obtain ⟨rfl, -⟩ := List.cons.inj hback
        exact h' (by simp [hfront])
  · cases tail with
    | nil => exact hne (List.cons.inj hback).1.symm
    | cons w more =>
        obtain ⟨rfl, -⟩ := List.cons.inj hback
        exact h (by simp [hfront])

variable [DecidableEq α]

theorem takeWhile_segment {segment rest : List α} (hsegment : slash ∉ segment)
    (hrest : ∀ u, rest.head? = some u → u = slash) :
    (segment ++ rest).takeWhile (· ≠ slash) = segment := by
  have hunits : ∀ u ∈ segment, decide (u ≠ slash) = true := fun u hu =>
    decide_eq_true fun heq => hsegment (heq ▸ hu)
  rw [List.takeWhile_append_of_pos hunits]
  cases rest with
  | nil => exact List.append_nil _
  | cons u rest =>
      rw [hrest u rfl, List.takeWhile_cons_of_neg (by simp), List.append_nil]

theorem append_cons_inj {front front' back back' : List α} (h : slash ∉ front)
    (h' : slash ∉ front') :
    front ++ slash :: back = front' ++ slash :: back' ↔ front = front' ∧ back = back' := by
  constructor
  · intro heq
    have hhead : ∀ rest : List α, ∀ u, (slash :: rest).head? = some u → u = slash := fun _ _ hu =>
      (Option.some.inj hu).symm
    have hfront : front = front' := by
      rw [← takeWhile_segment h (hhead back), heq, takeWhile_segment h' (hhead back')]
    subst hfront
    exact ⟨rfl, (List.cons.inj (List.append_cancel_left heq)).2⟩
  · rintro ⟨rfl, rfl⟩
    rfl

theorem not_mem_of_mem_splitOn {text segment : List α} (h : segment ∈ text.splitOn slash) :
    slash ∉ segment := by
  induction text generalizing segment with
  | nil =>
      rw [List.splitOn_nil, List.mem_singleton] at h
      rw [h]
      exact List.not_mem_nil
  | cons u text ih =>
      rw [List.splitOn_cons_eq_if_modifyHead] at h
      split at h
      · rcases List.mem_cons.mp h with rfl | h
        · exact List.not_mem_nil
        · exact ih h
      · rename_i hu
        cases hsplit : text.splitOn slash with
        | nil => exact absurd hsplit (List.splitOn_ne_nil slash text)
        | cons first rest =>
            rw [hsplit, List.modifyHead_cons] at h
            rcases List.mem_cons.mp h with rfl | h
            · rw [List.mem_cons, not_or]
              exact ⟨fun heq => hu (beq_iff_eq.mpr heq.symm), ih (hsplit ▸ List.mem_cons_self)⟩
            · exact ih (hsplit ▸ List.mem_cons_of_mem _ h)

theorem prefix_render_iff {front segments : List (List α)} (hfront : ∀ s ∈ front, slash ∉ s)
    (hsegments : ∀ s ∈ segments, slash ∉ s) :
    render slash segments = render slash front ∨
        render slash front ++ [slash] <+: render slash segments ↔
      front <+: segments := by
  induction front generalizing segments with
  | nil =>
      refine iff_of_true ?_ List.nil_prefix
      cases segments with
      | nil => exact .inl rfl
      | cons segment segments => exact .inr ⟨segment ++ render slash segments, rfl⟩
  | cons first front ih =>
      cases segments with
      | nil =>
          rw [render_cons, List.cons_append]
          exact iff_of_false (by simp [render]) (by simp)
      | cons segment segments =>
          rw [List.forall_mem_cons] at hfront hsegments
          have hfound : (segment ++ render slash segments).takeWhile (· ≠ slash) = segment :=
            takeWhile_segment hsegments.1 fun u => head_render
          rw [render_cons, render_cons, List.cons_append, List.cons.injEq, List.cons_prefix_cons,
            List.cons_prefix_cons, ← ih hfront.2 hsegments.2, List.append_assoc]
          simp only [true_and]
          constructor
          · rintro (heq | ⟨tail, heq⟩)
            · have hsame : first = segment := by
                rw [← hfound, heq]
                exact (takeWhile_segment hfront.1 fun u => head_render).symm
              subst hsame
              exact ⟨rfl, .inl (List.append_cancel_left heq)⟩
            · rw [List.append_assoc, List.append_assoc] at heq
              have hsame : first = segment := by
                rw [← hfound, ← heq]
                refine (takeWhile_segment hfront.1 fun u hu => ?_).symm
                cases hrender : render slash front with
                | nil =>
                    rw [hrender] at hu
                    exact (Option.some.inj hu).symm
                | cons v rest =>
                    rw [hrender] at hu
                    exact head_render (by rw [hrender]; exact hu)
              subst hsame
              refine ⟨rfl, .inr ⟨tail, ?_⟩⟩
              rw [List.append_assoc]
              exact List.append_cancel_left heq
          · rintro ⟨rfl, heq | ⟨tail, heq⟩⟩
            · exact .inl (heq ▸ rfl)
            · exact .inr ⟨tail, by rw [List.append_assoc, heq]⟩

end X424.Foundation.Paths
