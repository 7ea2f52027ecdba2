import ClusterCapacity.Proofs.Json.Sorted
import ClusterCapacity.Proofs.Text.Utf8
import Mathlib.Data.List.Pairwise

/-!
# Values in canonical order

A value is in canonical order when the members of every object in it have strictly ascending names,
compared by their bytes (`Ascending`).  Sorting brings any value into this order
(`ascending_sorted`) and leaves a value alone that is in it (`sorted_of_ascending`).  What stands
within a sorted value stands unsorted within the value that was sorted (`within_sorted`).
-/

namespace ClusterCapacity.Json

/-! ### Values within a value -/

/-- Whether a value is another one or stands anywhere in its items and members. -/
inductive Within (value : Json) : Json → Prop where
  | self : Within value value
  | item {item : Json} {items : List Json} (hitem : item ∈ items) (h : Within value item) :
    Within value (arr items)
  | member {name : String} {held : Json} {members : List (String × Json)}
    (hmember : (name, held) ∈ members) (h : Within value held) : Within value (obj members)

theorem sortedItems_eq_map (items : List Json) : sortedItems items = items.map sorted := by
  induction items with
  | nil => rfl
  | cons item rest ih => rw [sortedItems, ih, List.map_cons]

theorem sorted_arr_map {α : Type} (write : α → Json) (values : List α) :
    (arr (values.map write)).sorted = arr (values.map (fun value => (write value).sorted)) := by
  rw [sorted, sortedItems_eq_map, List.map_map]
  rfl

theorem mem_insertMember {name : String} {value : Json} {members : List (String × Json)}
    {member : String × Json} (h : member ∈ insertMember name value members) :
    member = (name, value) ∨ member ∈ members := by
  induction members with
  | nil => simpa [insertMember] using h
  | cons first rest ih =>
    simp only [insertMember] at h
    split_ifs at h with hlt heq
    · exact List.mem_cons.mp h
    · exact (List.mem_cons.mp h).imp_right (List.mem_cons_of_mem _)
    · rcases List.mem_cons.mp h with rfl | hrest
      · exact .inr List.mem_cons_self
      · exact (ih hrest).imp_right (List.mem_cons_of_mem _)

theorem mem_sortedMembers {members done : List (String × Json)} {member : String × Json}
    (h : member ∈ sortedMembers members done) :
    member ∈ done ∨ ∃ value, (member.1, value) ∈ members ∧ member.2 = value.sorted := by
  induction members generalizing done with
  | nil => exact .inl h
  | cons first rest ih =>
    obtain ⟨name, value⟩ := first
    rcases ih h with hdone | ⟨value', hmem, heq⟩
    · rcases mem_insertMember hdone with rfl | hdone
      · exact .inr ⟨value, List.mem_cons_self, rfl⟩
      · exact .inl hdone
    · exact .inr ⟨value', List.mem_cons_of_mem _ hmem, heq⟩

/-- Each value within a sorted one comes from a value within the one that was sorted. -/
theorem within_sorted {value whole : Json} (h : Within value whole.sorted) :
    ∃ source, Within source whole ∧ value = source.sorted := by
  generalize hsorted : whole.sorted = result at h
  induction h generalizing whole with
  | self => exact ⟨whole, .self, hsorted.symm⟩
  | @item item items hitem h ih =>
    cases whole with
    | arr sources =>
      rw [sorted, sortedItems_eq_map, arr.injEq] at hsorted
      subst hsorted
      obtain ⟨source, hsource, heq⟩ := List.mem_map.mp hitem
      obtain ⟨inner, hinner, hvalue⟩ := ih heq
      exact ⟨inner, .item hsource hinner, hvalue⟩
    | _ => simp [sorted] at hsorted
  | @member name held members hmember h ih =>
    cases whole with
    | obj sources =>
      rw [sorted, obj.injEq] at hsorted
      subst hsorted
      rcases mem_sortedMembers hmember with hnil | ⟨source, hsource, heq⟩
      · exact absurd hnil List.not_mem_nil
      · obtain ⟨inner, hinner, hvalue⟩ := ih heq.symm
        exact ⟨inner, .member hsource hinner, hvalue⟩
    | _ => simp [sorted] at hsorted

/-! ### Members of a sorted object -/

theorem insertMember_perm {name : String} (value : Json) {members : List (String × Json)}
    (h : name ∉ members.map Prod.fst) :
    (insertMember name value members).Perm ((name, value) :: members) := by
  induction members with
  | nil => exact List.Perm.refl _
  | cons member rest ih =>
    obtain ⟨first, held⟩ := member
    rw [List.map_cons, List.mem_cons, not_or] at h
    rw [insertMember, if_neg h.1]
    split_ifs with hlt
    · exact List.Perm.refl _
    · exact ((ih h.2).cons _).trans (List.Perm.swap ..)

theorem sortedMembers_perm {members : List (String × Json)} (done : List (String × Json))
    (h : ((done ++ members).map Prod.fst).Nodup) :
    (sortedMembers members done).Perm
      (done ++ members.map (fun member => (member.1, member.2.sorted))) := by
  induction members generalizing done with
  | nil => rw [sortedMembers, List.map_nil, List.append_nil]
  | cons member rest ih =>
    obtain ⟨name, value⟩ := member
    have hmiddle : ((name, value) :: (done ++ rest)).Perm (done ++ (name, value) :: rest) :=
      List.perm_middle.symm
    have hnodup := (hmiddle.map Prod.fst).nodup_iff.mpr h
    rw [List.map_cons, List.nodup_cons, List.map_append, List.mem_append, not_or] at hnodup
    have hinsert := insertMember_perm value.sorted hnodup.1.1
    have hnext : ((insertMember name value.sorted done ++ rest).map Prod.fst).Nodup := by
      rw [List.map_append, ((hinsert.map Prod.fst).append_right _).nodup_iff]
      exact List.nodup_cons.mpr ⟨by simpa using hnodup.1, hnodup.2⟩
    exact (ih _ hnext).trans ((hinsert.append_right _).trans List.perm_middle.symm)

/-- A sorted object has the sorted members, none of them lost or merged if their names differ. -/
theorem sorted_obj_members {members : List (String × Json)} (h : (members.map Prod.fst).Nodup) :
    ∃ ordered, (obj members).sorted = obj ordered ∧
      ordered.Perm (members.map (fun member => (member.1, member.2.sorted))) :=
  ⟨sortedMembers members [], by rw [sorted], sortedMembers_perm [] h⟩

/-! ### Ascending names -/

/-- Whether names come in strictly ascending order of their bytes. -/
def NamesAscend (members : List (String × Json)) : Prop :=
  (members.map Prod.fst).Pairwise (fun name later => name.toUTF8.toList < later.toUTF8.toList)

/-- Whether the names of every object within a value ascend. -/
def Ascending (value : Json) : Prop := ∀ members, Within (obj members) value → NamesAscend members

theorem namesAscend_iff {members : List (String × Json)} :
    NamesAscend members ↔ members.Pairwise (fun member later => member.1 < later.1) := by
  simp only [NamesAscend, Utf8.toUTF8_lt_iff, List.pairwise_map]

theorem namesAscend_insertMember (name : String) (value : Json) {members : List (String × Json)}
    (h : NamesAscend members) : NamesAscend (insertMember name value members) := by
  rw [namesAscend_iff] at h ⊢
  induction members with
  | nil => exact List.pairwise_singleton _ _
  | cons member rest ih =>
    obtain ⟨first, held⟩ := member
    obtain ⟨hfirst, hrest⟩ := List.pairwise_cons.mp h
    simp only [insertMember]
    split_ifs with hlt heq
    · refine List.pairwise_cons.mpr ⟨?_, h⟩
      intro later hlater
      rcases List.mem_cons.mp hlater with rfl | hlater
      · exact hlt
      · exact hlt.trans (hfirst later hlater)
    · subst heq
      exact List.pairwise_cons.mpr ⟨hfirst, hrest⟩
    · refine List.pairwise_cons.mpr ⟨?_, ih hrest⟩
      intro later hlater
      -- the new member stands after the first one, because its name is greater
      rcases mem_insertMember hlater with rfl | hlater
      · exact lt_of_le_of_ne (not_lt.mp hlt) (Ne.symm heq)
      · exact hfirst later hlater

theorem namesAscend_sortedMembers (members : List (String × Json))
    {done : List (String × Json)} (h : NamesAscend done) :
    NamesAscend (sortedMembers members done) := by
  induction members generalizing done with
  | nil => exact h
  | cons member rest ih => exact ih (namesAscend_insertMember _ _ h)

/-- A sorted value is in canonical order. -/
theorem ascending_sorted (value : Json) : value.sorted.Ascending := by
  intro members hmembers
  obtain ⟨source, -, heq⟩ := within_sorted hmembers
  cases source with
  | obj sources =>
    rw [sorted, obj.injEq] at heq
    rw [heq]
    exact namesAscend_sortedMembers sources List.Pairwise.nil
  | _ => simp [sorted] at heq

/-! ### Sorting what is in order -/

theorem insertMember_last {name : String} (value : Json) {members : List (String × Json)}
    (h : ∀ member ∈ members, member.1 < name) :
    insertMember name value members = members ++ [(name, value)] := by
  induction members with
  | nil => rfl
  | cons member rest ih =>
    obtain ⟨hfirst, hrest⟩ := List.forall_mem_cons.mp h
    rw [insertMember, if_neg hfirst.not_gt, if_neg hfirst.ne', ih hrest, List.cons_append]

theorem sortedMembers_of_ascending {members : List (String × Json)} (done : List (String × Json))
    (h : NamesAscend (done ++ members))
    (hsorted : ∀ member ∈ members, member.2.sorted = member.2) :
    sortedMembers members done = done ++ members := by
  induction members generalizing done with
  | nil => rw [sortedMembers, List.append_nil]
  | cons member rest ih =>
    obtain ⟨name, value⟩ := member
    obtain ⟨hvalue, hrest⟩ := List.forall_mem_cons.mp hsorted
    have hlast : ∀ earlier ∈ done, earlier.1 < name := by
      intro earlier hearlier
      exact (List.pairwise_append.mp (namesAscend_iff.mp h)).2.2 earlier hearlier (name, value)
        List.mem_cons_self
    have hnext : (done ++ [(name, value)]) ++ rest = done ++ (name, value) :: rest := by
      rw [List.append_assoc, List.singleton_append]
    rw [sortedMembers, hvalue, insertMember_last value hlast, ih _ (by rwa [hnext]) hrest, hnext]

/-- Sorting does not change a value that is in canonical order. -/
theorem sorted_of_ascending (value : Json) (h : value.Ascending) : value.sorted = value := by
  cases value with
  | null => rfl
  | bool value => rfl
  | int value => rfl
  | str text => rfl
  | arr items =>
    have hitems : ∀ item ∈ items, item.sorted = item := by
      intro item hitem
      exact sorted_of_ascending item (fun _ hmembers => h _ (.item hitem hmembers))
    rw [sorted, sortedItems_eq_map, List.map_congr_left hitems, List.map_id']
  | obj members =>
    have hmembers : ∀ member ∈ members, member.2.sorted = member.2 := by
      rintro ⟨name, held⟩ hmember
      exact sorted_of_ascending held (fun _ hwithin => h _ (.member hmember hwithin))
    rw [sorted, sortedMembers_of_ascending [] (h members .self) hmembers, List.nil_append]
termination_by value
decreasing_by
  · have hsize := List.sizeOf_lt_of_mem hitem
    rw [‹value = arr items›, arr.sizeOf_spec]
    omega
  · have hsize := List.sizeOf_lt_of_mem hmember
    rw [Prod.mk.sizeOf_spec] at hsize
    rw [‹value = obj members›, obj.sizeOf_spec]
    omega

theorem sorted_sorted (value : Json) : value.sorted.sorted = value.sorted :=
  sorted_of_ascending value.sorted (ascending_sorted value)

end ClusterCapacity.Json
