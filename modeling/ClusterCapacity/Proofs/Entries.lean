import Mathlib.Data.List.Basic

/-!
# Look-ups in lists of named entries

Tier maps, objects and layers of settings are lists of entries that are looked up by name, the first
entry of a name being found.  If no name is listed twice, a look-up finds just what the list holds
(`mem_iff_lookup_eq_some`), in whatever order it holds it (`lookup_perm`).
-/

namespace ClusterCapacity

variable {κ α : Type} [BEq κ] [LawfulBEq κ]

theorem lookup_cons_of_ne {name first : κ} (h : name ≠ first) (value : α)
    (rest : List (κ × α)) : ((first, value) :: rest).lookup name = rest.lookup name := by
  rw [List.lookup_cons, beq_false_of_ne h]

theorem lookup_eq_none_iff_not_mem {name : κ} {entries : List (κ × α)} :
    entries.lookup name = none ↔ name ∉ entries.map Prod.fst := by
  rw [List.lookup_eq_none_iff, List.mem_map]
  constructor
  · rintro h ⟨entry, hentry, rfl⟩
    exact absurd (h entry hentry) (by simp)
  · intro h entry hentry
    have hne : name ≠ entry.1 := fun heq => h ⟨entry, hentry, heq.symm⟩
    simpa using hne

theorem mem_iff_lookup_eq_some {entries : List (κ × α)} (h : (entries.map Prod.fst).Nodup)
    {name : κ} {value : α} : (name, value) ∈ entries ↔ entries.lookup name = some value := by
  induction entries with
  | nil => simp
  | cons entry rest ih =>
    obtain ⟨first, held⟩ := entry
    rw [List.map_cons, List.nodup_cons] at h
    by_cases hname : name = first
    · subst hname
      have hfresh : (name, value) ∉ rest :=
        fun hmem => h.1 (List.mem_map.mpr ⟨(name, value), hmem, rfl⟩)
      simp [hfresh, eq_comm]
    · rw [lookup_cons_of_ne hname, ← ih h.2, List.mem_cons, Prod.mk.injEq]
      simp only [hname, false_and, false_or]

/-- The order of differently named entries does not matter. -/
theorem lookup_perm {entries others : List (κ × α)} (hperm : entries.Perm others)
    (h : (others.map Prod.fst).Nodup) (name : κ) :
    entries.lookup name = others.lookup name := by
  have hentries : (entries.map Prod.fst).Nodup := (hperm.map Prod.fst).nodup_iff.mpr h
  apply Option.ext
  intro value
  rw [← mem_iff_lookup_eq_some hentries, ← mem_iff_lookup_eq_some h, hperm.mem_iff]

end ClusterCapacity
