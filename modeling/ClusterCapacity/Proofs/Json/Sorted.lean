import ClusterCapacity.Json.Basic
import ClusterCapacity.Proofs.Entries
import Mathlib.Data.List.Nodup
import Mathlib.Data.String.Basic

/-!
# Sorted objects

`Json.sorted` does not see the order in which the members of an object are given, as long as no name
is given twice (`sorted_obj_perm`), and a member is found under its name in the sorted object
(`member?_sorted_obj`).  Both rest on what one insertion does: insertions of different names commute
(`insertMember_comm`), and an insertion changes what is found under its own name only
(`lookup_insertMember`).
-/

namespace ClusterCapacity.Json

/-- What an object holds under a name. -/
def member? (name : String) : Json → Option Json
  | obj members => members.lookup name
  | _ => none

/-! ### One insertion -/

theorem insertMember_comm {name other : String} (h : name ≠ other) (value another : Json)
    (members : List (String × Json)) :
    insertMember name value (insertMember other another members)
      = insertMember other another (insertMember name value members) := by
  induction members with
  | nil =>
    rcases lt_or_gt_of_ne h with hlt | hgt
    · simp [insertMember, hlt, hlt.not_gt, h.symm]
    · simp [insertMember, hgt, hgt.not_gt, h]
  | cons member rest ih =>
    obtain ⟨first, held⟩ := member
    -- each name comes before the first member, takes its place, or goes on to the rest
    rcases lt_trichotomy name first with hname | hname | hname <;>
      rcases lt_trichotomy other first with hother | hother | hother
    · rcases lt_or_gt_of_ne h with hlt | hgt
      · simp [insertMember, hname, hother, hlt, hlt.not_gt, h.symm]
      · simp [insertMember, hname, hother, hgt, hgt.not_gt, h]
    · subst hother
      simp [insertMember, hname, hname.not_gt, h.symm]
    · have hlt := hname.trans hother
      simp [insertMember, hname, hother.not_gt, hother.ne', hlt.not_gt, h.symm]
    · subst hname
      simp [insertMember, hother, hother.not_gt, h]
    · exact absurd (hname.trans hother.symm) h
    · subst hname
      simp [insertMember, hother.not_gt, hother.ne']
    · have hlt := hother.trans hname
      simp [insertMember, hother, hname.not_gt, hname.ne', hlt.not_gt, h]
    · subst hother
      simp [insertMember, hname.not_gt, hname.ne']
    · simp [insertMember, hname.not_gt, hname.ne', hother.not_gt, hother.ne', ih]

theorem lookup_insertMember (name other : String) (value : Json)
    (members : List (String × Json)) :
    (insertMember name value members).lookup other
      = if other = name then some value else members.lookup other := by
  induction members with
  | nil =>
    by_cases h : other = name
    · simp [insertMember, h]
    · simp [insertMember, h]
  | cons member rest ih =>
    obtain ⟨first, held⟩ := member
    by_cases h : other = name
    · subst h
      simp only [insertMember]
      split_ifs with hlt heq
      · simp
      · simp
      · rw [List.lookup_cons, beq_false_of_ne heq, ih, if_pos rfl]
    · simp only [insertMember]
      split_ifs with hlt heq
      · rw [List.lookup_cons, beq_false_of_ne h]
      · subst heq
        rw [List.lookup_cons, List.lookup_cons, beq_false_of_ne h]
      · rw [List.lookup_cons, List.lookup_cons, ih, if_neg h]

/-! ### All members -/

theorem sortedMembers_eq_foldl (members done : List (String × Json)) :
    sortedMembers members done
      = members.foldl (fun done member => insertMember member.1 member.2.sorted done) done := by
  induction members generalizing done with
  | nil => rw [sortedMembers, List.foldl_nil]
  | cons member rest ih => rw [sortedMembers, ih, List.foldl_cons]

theorem sortedMembers_append (members others done : List (String × Json)) :
    sortedMembers (members ++ others) done
      = sortedMembers others (sortedMembers members done) := by
  rw [sortedMembers_eq_foldl, List.foldl_append, ← sortedMembers_eq_foldl,
    ← sortedMembers_eq_foldl]

/-- Members of different names may be sorted in any order. -/
theorem sorted_obj_perm {members others : List (String × Json)} (h : members.Perm others)
    (hnodup : (members.map Prod.fst).Nodup) : (obj members).sorted = (obj others).sorted := by
  simp only [sorted, sortedMembers_eq_foldl]
  congr 1
  refine h.foldl_eq' ?_ []
  intro member hmember other hother done
  -- members of one name are one member, because no name is given twice
  by_cases hname : member.1 = other.1
  · rw [List.inj_on_of_nodup_map hnodup hmember hother hname]
  · exact insertMember_comm (Ne.symm hname) _ _ done

theorem lookup_sortedMembers {members : List (String × Json)}
    (hnodup : (members.map Prod.fst).Nodup) (done : List (String × Json)) (name : String) :
    (sortedMembers members done).lookup name
      = ((members.lookup name).map sorted).or (done.lookup name) := by
  induction members generalizing done with
  | nil => rw [sortedMembers, List.lookup_nil, Option.map_none, Option.none_or]
  | cons member rest ih =>
    obtain ⟨first, value⟩ := member
    rw [List.map_cons, List.nodup_cons] at hnodup
    rw [sortedMembers, ih hnodup.2, lookup_insertMember, List.lookup_cons]
    by_cases h : name = first
    · subst h
      have hnone : rest.lookup name = none := lookup_eq_none_iff_not_mem.mpr hnodup.1
      simp [hnone]
    · rw [if_neg h, beq_false_of_ne h]

/-- A sorted object holds the sorted value of each member. -/
theorem member?_sorted_obj {members : List (String × Json)}
    (hnodup : (members.map Prod.fst).Nodup) (name : String) :
    (obj members).sorted.member? name = (members.lookup name).map sorted := by
  rw [sorted, member?, lookup_sortedMembers hnodup, List.lookup_nil, Option.or_none]

/-! ### Leaving a member out -/

/-- The same value, but an object without the members of one name. -/
def without (name : String) : Json → Json
  | obj members => obj (members.filter (fun member => member.1 ≠ name))
  | value => value

theorem filter_insertMember (name : String) (value : Json) (members : List (String × Json)) :
    (insertMember name value members).filter (fun member => member.1 ≠ name)
      = members.filter (fun member => member.1 ≠ name) := by
  induction members with
  | nil => simp [insertMember]
  | cons member rest ih =>
    obtain ⟨first, held⟩ := member
    rw [insertMember]
    split_ifs with hlt heq
    · simp
    · subst heq
      simp
    · rw [List.filter_cons, List.filter_cons, ih]

/-- Leaving the member of a new name out of a sorted object gives the sorted object of the others.
-/
theorem without_sorted_obj {members : List (String × Json)} {name : String} (value : Json)
    (hnodup : (members.map Prod.fst).Nodup) (hnew : members.lookup name = none) :
    (obj (members ++ [(name, value)])).sorted.without name = (obj members).sorted := by
  have hkept : (sortedMembers members []).filter (fun member => member.1 ≠ name)
      = sortedMembers members [] := by
    have hlookup : (sortedMembers members []).lookup name = none := by
      rw [lookup_sortedMembers hnodup, hnew]
      rfl
    have hfresh := lookup_eq_none_iff_not_mem.mp hlookup
    rw [List.filter_eq_self]
    intro member hmember
    have hne : member.1 ≠ name := fun h => hfresh (List.mem_map.mpr ⟨member, hmember, h⟩)
    exact decide_eq_true hne
  -- the new member is inserted last, and filtering takes just this member out again
  rw [sorted, sorted, sortedMembers_append, sortedMembers, sortedMembers, without,
    filter_insertMember, hkept]

end ClusterCapacity.Json
