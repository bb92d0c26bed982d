import Mathlib.Data.List.Nodup
import Mathlib.Logic.Basic

/-!
# Records replaced by compare-and-swap

A table keeps at most one record under each key, and a record carries a
version.  The log lists every record that the table has held.  A record starts
under a fresh key; a swap replaces the stored record by one with the next
version, unless the stored one is final; and a record may vanish.  Then a key
and a version name one record of the log, so that a swap that compares
versions compares whole records.
-/

namespace X424.Foundation

/-- What a table makes of its records; a swap keeps the identity. -/
structure RecordKind (α κ β : Type*) where
  key : α → κ
  version : α → Nat
  final : α → Prop
  identity : α → β

variable {α κ β : Type*} {kind : RecordKind α κ β}

/-- The record was stored under its key, where it may have vanished since. -/
structure Stores (kind : RecordKind α κ β) (before after : κ → Option α) (record : α) :
    Prop where
  others : ∀ k, k ≠ kind.key record → after k = before k
  same : ∀ {current}, after (kind.key record) = some current → current = record

/-- The log of a table that is only written as described above. -/
structure VersionLog (kind : RecordKind α κ β) (stored : κ → Option α) (log : List α) :
    Prop where
  logged : ∀ {k record}, stored k = some record → record ∈ log ∧ kind.key record = k
  newest : ∀ {record current}, record ∈ log → stored (kind.key record) = some current →
    kind.version record ≤ kind.version current
  once : (log.map fun record => (kind.key record, kind.version record)).Nodup
  last : ∀ {record other}, record ∈ log → kind.final record → other ∈ log →
    kind.key other = kind.key record → kind.version other ≤ kind.version record
  lineage : ∀ {record other}, record ∈ log → other ∈ log →
    kind.key other = kind.key record → kind.identity other = kind.identity record

namespace VersionLog

variable {before after : κ → Option α} {log : List α} {record current : α}

theorem empty : VersionLog kind (fun _ => none) [] where
  logged h := nomatch h
  newest h := nomatch h
  once := List.nodup_nil
  last h := nomatch h
  lineage h := nomatch h

theorem eq_of_version (h : VersionLog kind before log) {other : α} (hrecord : record ∈ log)
    (hother : other ∈ log) (hkey : kind.key record = kind.key other)
    (hversion : kind.version record = kind.version other) : record = other :=
  List.inj_on_of_nodup_map h.once hrecord hother (Prod.ext hkey hversion)

theorem eq_stored (h : VersionLog kind before log) (hrecord : record ∈ log)
    (hcurrent : before (kind.key record) = some current)
    (hversion : kind.version current = kind.version record) : current = record := by
  obtain ⟨hlogged, hkey⟩ := h.logged hcurrent
  exact h.eq_of_version hlogged hrecord hkey hversion

theorem stored_of_final (h : VersionLog kind before log) (hrecord : record ∈ log)
    (hfinal : kind.final record) (hcurrent : before (kind.key record) = some current) :
    current = record := by
  obtain ⟨hlogged, hkey⟩ := h.logged hcurrent
  refine h.eq_stored hrecord hcurrent (Nat.le_antisymm ?_ (h.newest hrecord hcurrent))
  exact h.last hrecord hfinal hlogged hkey

theorem vanish (h : VersionLog kind before log)
    (hafter : ∀ {k record}, after k = some record → before k = some record) :
    VersionLog kind after log where
  logged hstored := h.logged (hafter hstored)
  newest hrecord hstored := h.newest hrecord (hafter hstored)
  once := h.once
  last := h.last
  lineage := h.lineage

private theorem eq_or_before (hstores : Stores kind before after record) {k : κ} {found : α}
    (hfound : after k = some found) :
    (k = kind.key record ∧ found = record) ∨ (k ≠ kind.key record ∧ before k = some found) := by
  by_cases hk : k = kind.key record
  · subst hk
    exact Or.inl ⟨rfl, hstores.same hfound⟩
  · rw [hstores.others k hk] at hfound
    exact Or.inr ⟨hk, hfound⟩

theorem start (h : VersionLog kind before log)
    (hfresh : ∀ other ∈ log, kind.key other ≠ kind.key record)
    (hstores : Stores kind before after record) :
    VersionLog kind after (record :: log) where
  logged hfound := by
    rcases eq_or_before hstores hfound with ⟨rfl, rfl⟩ | ⟨_, hbefore⟩
    · exact ⟨List.mem_cons_self, rfl⟩
    · obtain ⟨hlogged, hkey⟩ := h.logged hbefore
      exact ⟨List.mem_cons_of_mem _ hlogged, hkey⟩
  newest hother hfound := by
    rcases eq_or_before hstores hfound with ⟨hkey, rfl⟩ | ⟨hne, hbefore⟩
    · rcases List.mem_cons.mp hother with rfl | hother
      · exact Nat.le_refl _
      · exact absurd hkey (hfresh _ hother)
    · rcases List.mem_cons.mp hother with rfl | hother
      · exact absurd rfl hne
      · exact h.newest hother hbefore
  once := by
    refine List.nodup_cons.mpr ⟨fun hmem => ?_, h.once⟩
    obtain ⟨other, hother, heq⟩ := List.mem_map.mp hmem
    exact hfresh other hother (congrArg Prod.fst heq)
  last hfirst hfinal hsecond hkey := by
    rcases List.mem_cons.mp hfirst with rfl | hold <;>
      rcases List.mem_cons.mp hsecond with rfl | hother
    · exact Nat.le_refl _
    · exact absurd hkey (hfresh _ hother)
    · exact absurd hkey.symm (hfresh _ hold)
    · exact h.last hold hfinal hother hkey
  lineage hfirst hsecond hkey := by
    rcases List.mem_cons.mp hfirst with rfl | hold <;>
      rcases List.mem_cons.mp hsecond with rfl | hother
    · rfl
    · exact absurd hkey (hfresh _ hother)
    · exact absurd hkey.symm (hfresh _ hold)
    · exact h.lineage hold hother hkey

theorem swap (h : VersionLog kind before log)
    (hcurrent : before (kind.key record) = some current)
    (hversion : kind.version record = kind.version current + 1)
    (hopen : ¬ kind.final current) (hidentity : kind.identity record = kind.identity current)
    (hstores : Stores kind before after record) :
    VersionLog kind after (record :: log) := by
  obtain ⟨hlogged, hkey⟩ := h.logged hcurrent
  have holder : ∀ {other}, other ∈ log → kind.key other = kind.key record →
      kind.version other < kind.version record := by
    intro other hother hsame
    have := h.newest hother (hsame ▸ hcurrent)
    omega
  refine ⟨fun hfound => ?_, fun hother hfound => ?_, ?_, fun hfirst hfinal hsecond hsame => ?_,
    fun hfirst hsecond hsame => ?_⟩
  · rcases eq_or_before hstores hfound with ⟨rfl, rfl⟩ | ⟨_, hbefore⟩
    · exact ⟨List.mem_cons_self, rfl⟩
    · exact ⟨List.mem_cons_of_mem _ (h.logged hbefore).1, (h.logged hbefore).2⟩
  · rcases eq_or_before hstores hfound with ⟨hsame, rfl⟩ | ⟨hne, hbefore⟩
    · rcases List.mem_cons.mp hother with rfl | hother
      · exact Nat.le_refl _
      · exact Nat.le_of_lt (holder hother hsame)
    · rcases List.mem_cons.mp hother with rfl | hother
      · exact absurd rfl hne
      · exact h.newest hother hbefore
  · refine List.nodup_cons.mpr ⟨fun hmem => ?_, h.once⟩
    obtain ⟨other, hother, heq⟩ := List.mem_map.mp hmem
    have hlt := holder hother (congrArg Prod.fst heq)
    have hsame : kind.version other = kind.version record := congrArg Prod.snd heq
    omega
  · rcases List.mem_cons.mp hfirst with rfl | hold <;>
      rcases List.mem_cons.mp hsecond with rfl | hother
    · exact Nat.le_refl _
    · exact Nat.le_of_lt (holder hother hsame)
    · -- a final record of this key would be the stored one
      have hstored : current = _ := h.stored_of_final hold hfinal (hsame ▸ hcurrent)
      exact absurd (hstored ▸ hfinal) hopen
    · exact h.last hold hfinal hother hsame
  · rcases List.mem_cons.mp hfirst with rfl | hold <;>
      rcases List.mem_cons.mp hsecond with rfl | hother
    · rfl
    · rw [hidentity]
      exact h.lineage hlogged hother (hsame.trans hkey.symm)
    · rw [hidentity]
      exact h.lineage hold hlogged (hkey.trans hsame)
    · exact h.lineage hold hother hsame

end VersionLog

end X424.Foundation
