import ClusterCapacity.Proofs.TierMap.Sums

/-!
# Tier maps under merging

Tier maps form a monoid under merging (`merge_monoid`).  Adding the pairs of a list one by one comes
to the same as merging the map that they are collected in (`merge_ofList`): the names that come
again are erased sooner or later, and sums may wrap before they are added up.  So a merge of two
maps is collected from the entries of the one and then of the other, and the laws of merging are
those of appending lists.  All of this needs that a map lists no name twice (`ofList_entries`).
-/

namespace ClusterCapacity

/-! ### Repeated names -/

theorem eraseDups_append_singleton (names : List String) (name : String) :
    (names ++ [name]).eraseDups
      = if name ∈ names then names.eraseDups else names.eraseDups ++ [name] := by
  rw [List.eraseDups_append]
  by_cases h : name ∈ names
  · simp [List.removeAll, h]
  · simp [List.removeAll, h, eraseDups_eq_self]

/-- Repeats may be erased from the end of a list first. -/
theorem eraseDups_append_eraseDups (names others : List String) :
    (names ++ others.eraseDups).eraseDups = (names ++ others).eraseDups := by
  -- the names are appended one after the other, so the last one is either new or listed already
  induction others using List.reverseRecOn with
  | nil => rfl
  | append_singleton others name ih =>
    rw [eraseDups_append_singleton]
    by_cases h : name ∈ others
    · have hmem : name ∈ names ++ others := List.mem_append_right names h
      rw [if_pos h, ih, ← List.append_assoc, eraseDups_append_singleton, if_pos hmem]
    · rw [if_neg h, ← List.append_assoc, ← List.append_assoc, ← eraseDups_eraseDups_append, ih,
        eraseDups_eraseDups_append]

namespace TierMap

/-! ### Merging collected maps -/

variable (a b c : TierMap) (pairs others : List (String × Int64))

/-- The entries of a collected map hold what its pairs hold, up to wrapping. -/
theorem ofInt_amount_entries_ofList (tier : String) :
    Int64.ofInt (amount tier (ofList pairs).entries) = Int64.ofInt (amount tier pairs) := by
  rw [← getD_ofList, ofList_entries, getD_ofList]

/-- Pairs may be collected before they are added. -/
theorem merge_ofList : a.merge (ofList pairs) = a.addAll pairs := by
  rw [eq_iff_tiers_getD]
  constructor
  · have hnames : (ofList pairs).entries.map Prod.fst = (pairs.map Prod.fst).eraseDups :=
      tiers_ofList pairs
    rw [merge, tiers_addAll, tiers_addAll, hnames, eraseDups_append_eraseDups]
  · intro tier _
    rw [merge, getD_addAll, getD_addAll, ofInt_amount_entries_ofList]

theorem ofList_append : ofList (pairs ++ others) = (ofList pairs).merge (ofList others) := by
  rw [merge_ofList, ofList, addAll_append, ofList]

/-- A merge is collected from the entries of both maps. -/
theorem merge_eq_ofList : a.merge b = ofList (a.entries ++ b.entries) := by
  rw [ofList_append, ofList_entries, ofList_entries]

theorem empty_merge : empty.merge a = a := ofList_entries a

theorem merge_empty : a.merge empty = a := rfl

theorem merge_assoc : (a.merge b).merge c = a.merge (b.merge c) := by
  calc (a.merge b).merge c = a.addAll (b.entries ++ c.entries) :=
        (addAll_append a b.entries c.entries).symm
    _ = a.merge (ofList (b.entries ++ c.entries)) := (merge_ofList a _).symm
    _ = a.merge (b.merge c) := by rw [merge_eq_ofList b c]

theorem get?_merge_comm (tier : String) : (a.merge b).get? tier = (b.merge a).get? tier := by
  rw [merge_eq_ofList, merge_eq_ofList]
  exact get?_ofList_perm List.perm_append_comm tier

/-- Tier maps form a monoid under merging, with the order of entries and all, and collecting pairs
takes appending to merging.  Merging the other way round changes the order of the entries at
most.  This is about every map that there can be, as each is collected from its own entries. -/
theorem merge_monoid :
    (a.merge b).merge c = a.merge (b.merge c) ∧
    empty.merge a = a ∧ a.merge empty = a ∧
    ofList (pairs ++ others) = (ofList pairs).merge (ofList others) ∧
    (a.merge b).entries.Perm (b.merge a).entries ∧
    (∀ tier, (a.merge b).get? tier = (b.merge a).get? tier) ∧
    ofList a.entries = a :=
  ⟨merge_assoc a b c, empty_merge a, merge_empty a, ofList_append pairs others,
    perm_entries (get?_merge_comm a b), get?_merge_comm a b, ofList_entries a⟩

/-- The names of the map that is merged into come first, and a sum wraps on the way. -/
example :
    let a := ofList [("HDD", 9223372036854775807), ("MEM", 1)]
    let b := ofList [("SSD", 2), ("HDD", 1)]
    (a.merge b).entries = [("HDD", -9223372036854775808), ("MEM", 1), ("SSD", 2)] ∧
      (b.merge a).entries = [("SSD", 2), ("HDD", -9223372036854775808), ("MEM", 1)] := by
  decide

end TierMap

end ClusterCapacity
