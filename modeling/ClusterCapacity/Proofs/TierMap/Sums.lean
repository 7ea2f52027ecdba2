import ClusterCapacity.Proofs.Entries
import ClusterCapacity.TierMap
import Mathlib

/-!
# What a list of pairs adds up to

A tier map that pairs are added to lists the names in the order of their first appearance
(`tiers_addAll`), and the count of each name grows by the integer sum of its pairs, wrapped to 64
bits at the end (`getD_addAll`).  So a map made of a list of pairs is known from the list
(`tiers_ofList`, `get?_ofList`), and the order of the pairs shows in the order of the names only
(`perm_entries_ofList`).  Maps are compared by the names that they list and the counts that they
have (`eq_iff_tiers_getD`), or by the counts alone if the order of entries does not matter
(`perm_entries`).
-/

namespace ClusterCapacity

/-! ### Lists without repeats -/

theorem nodup_eraseDups (names : List String) : names.eraseDups.Nodup := by
  cases names with
  | nil => simp
  | cons name rest =>
    rw [List.eraseDups_cons, List.nodup_cons]
    refine ⟨?_, nodup_eraseDups _⟩
    rw [List.mem_eraseDups, List.mem_filter]
    simp
termination_by names.length
decreasing_by
  -- what is left without the repeats of the head is no longer than the tail
  have := List.length_filter_le (fun other => !other == name) rest
  simp only [List.length_cons]
  omega

theorem eraseDups_eq_self {names : List String} (h : names.Nodup) : names.eraseDups = names := by
  induction names with
  | nil => rfl
  | cons name rest ih =>
    rw [List.nodup_cons] at h
    have hkeep : rest.filter (fun other => !other == name) = rest := by
      rw [List.filter_eq_self]
      intro other hother
      have hne : other ≠ name := fun heq => h.1 (heq ▸ hother)
      simpa using hne
    rw [List.eraseDups_cons, hkeep, ih h.2]

/-- Repeats may be erased from the beginning of a list first. -/
theorem eraseDups_eraseDups_append (names others : List String) :
    (names.eraseDups ++ others).eraseDups = (names ++ others).eraseDups := by
  have hleft : others.removeAll names.eraseDups = others.removeAll names := by
    simp only [List.removeAll, List.elem_eq_contains, List.contains_eq_mem, List.mem_eraseDups]
  rw [List.eraseDups_append, List.eraseDups_append, hleft,
    eraseDups_eq_self (nodup_eraseDups names)]

namespace TierMap

/-! ### Adding one pair -/

theorem mem_tiers_iff {tiers : TierMap} {tier : String} :
    tier ∈ tiers.tiers ↔ (tiers.get? tier).isSome := by
  rw [TierMap.tiers, get?]
  induction tiers.entries with
  | nil => simp
  | cons entry rest ih =>
    obtain ⟨name, count⟩ := entry
    by_cases h : tier = name
    · simp [h]
    · rw [lookup_cons_of_ne h, ← ih, List.map_cons, List.mem_cons]
      simp only [h, false_or]

theorem tiers_add (tiers : TierMap) (tier : String) (bytes : Int64) :
    (tiers.add tier bytes).tiers = (tiers.tiers ++ [tier]).eraseDups := by
  have hself : tiers.tiers.eraseDups = tiers.tiers := eraseDups_eq_self tiers.nodup
  have hnames : (tiers.add tier bytes).tiers
      = if tier ∈ tiers.tiers then tiers.tiers else tiers.tiers ++ [tier] :=
    map_fst_addEntry tier bytes tiers.entries
  rw [hnames, List.eraseDups_append, hself]
  -- the appended name is erased again if it was listed before
  by_cases h : tier ∈ tiers.tiers
  · simp [List.removeAll, h]
  · simp [List.removeAll, h, eraseDups_eq_self]

theorem lookup_addEntry (tier other : String) (bytes : Int64) (entries : List (String × Int64)) :
    (addEntry tier bytes entries).lookup other
      = if other = tier then some ((entries.lookup tier).getD 0 + bytes)
        else entries.lookup other := by
  induction entries with
  | nil =>
    by_cases h : other = tier
    · simp [addEntry, h]
    · rw [addEntry, lookup_cons_of_ne h, if_neg h]
  | cons entry rest ih =>
    obtain ⟨name, count⟩ := entry
    -- the entry of the tier is where the recursion stops
    by_cases hname : name = tier
    · subst hname
      by_cases h : other = name
      · simp [addEntry, h]
      · rw [addEntry, if_pos rfl, lookup_cons_of_ne h, lookup_cons_of_ne h, if_neg h]
    · rw [addEntry, if_neg hname]
      by_cases h : other = name
      · simp [h, hname]
      · rw [lookup_cons_of_ne h, lookup_cons_of_ne h, lookup_cons_of_ne (Ne.symm hname), ih]

/-- Adding to a tier changes the count of that tier only. -/
theorem get?_add (tiers : TierMap) (tier other : String) (bytes : Int64) :
    (tiers.add tier bytes).get? other
      = if other = tier then some (tiers.getD tier + bytes) else tiers.get? other :=
  lookup_addEntry tier other bytes tiers.entries

theorem getD_add (tiers : TierMap) (tier other : String) (bytes : Int64) :
    (tiers.add tier bytes).getD other
      = tiers.getD other + if other = tier then bytes else 0 := by
  rw [getD, get?_add]
  split
  · rename_i h
    rw [h, Option.getD_some]
  · rw [Int64.add_zero, getD]

/-! ### Adding many pairs -/

theorem addAll_cons (tiers : TierMap) (pair : String × Int64) (pairs : List (String × Int64)) :
    tiers.addAll (pair :: pairs) = (tiers.add pair.1 pair.2).addAll pairs := rfl

theorem addAll_append (tiers : TierMap) (pairs others : List (String × Int64)) :
    tiers.addAll (pairs ++ others) = (tiers.addAll pairs).addAll others := by
  simp only [addAll, List.foldl_append]

/-- The names are listed in the order in which they appear first. -/
theorem tiers_addAll (tiers : TierMap) (pairs : List (String × Int64)) :
    (tiers.addAll pairs).tiers = (tiers.tiers ++ pairs.map Prod.fst).eraseDups := by
  induction pairs generalizing tiers with
  | nil =>
    have hself : tiers.tiers.eraseDups = tiers.tiers := eraseDups_eq_self tiers.nodup
    rw [List.map_nil, List.append_nil, hself]
    rfl
  | cons pair rest ih =>
    rw [addAll_cons, ih, tiers_add, eraseDups_eraseDups_append, List.map_cons, List.append_assoc,
      List.singleton_append]

/-- What a list of pairs holds for a tier, as an integer. -/
def amount (tier : String) (pairs : List (String × Int64)) : Int :=
  ((pairs.filter (fun pair => pair.1 = tier)).map (fun pair => pair.2.toInt)).sum

@[simp]
theorem amount_nil (tier : String) : amount tier [] = 0 := rfl

theorem amount_cons (tier : String) (pair : String × Int64) (pairs : List (String × Int64)) :
    amount tier (pair :: pairs)
      = (if tier = pair.1 then pair.2.toInt else 0) + amount tier pairs := by
  by_cases h : tier = pair.1
  · simp [amount, h]
  · have h' : pair.1 ≠ tier := Ne.symm h
    simp [amount, h, h']

theorem amount_append (tier : String) (pairs others : List (String × Int64)) :
    amount tier (pairs ++ others) = amount tier pairs + amount tier others := by
  simp [amount]

theorem amount_perm {pairs others : List (String × Int64)} (h : pairs.Perm others)
    (tier : String) : amount tier pairs = amount tier others :=
  ((h.filter _).map _).sum_eq

/-- The count of a tier grows by the wrapped integer sum of its pairs. -/
theorem getD_addAll (tiers : TierMap) (pairs : List (String × Int64)) (tier : String) :
    (tiers.addAll pairs).getD tier = tiers.getD tier + Int64.ofInt (amount tier pairs) := by
  induction pairs generalizing tiers with
  | nil => simp [addAll]
  | cons pair rest ih =>
    -- sums that wrap on the way agree with the integer sum that wraps once
    have hpair : Int64.ofInt (if tier = pair.1 then pair.2.toInt else 0)
        = if tier = pair.1 then pair.2 else 0 := by
      split <;> simp
    rw [addAll_cons, ih, getD_add, amount_cons, Int64.ofInt_add, hpair, Int64.add_assoc]

/-! ### The map of a list of pairs -/

@[simp]
theorem tiers_empty : empty.tiers = [] := rfl

@[simp]
theorem getD_empty (tier : String) : empty.getD tier = 0 := rfl

theorem tiers_ofList (pairs : List (String × Int64)) :
    (ofList pairs).tiers = (pairs.map Prod.fst).eraseDups := by
  rw [ofList, tiers_addAll, tiers_empty, List.nil_append]

theorem getD_ofList (pairs : List (String × Int64)) (tier : String) :
    (ofList pairs).getD tier = Int64.ofInt (amount tier pairs) := by
  rw [ofList, getD_addAll, getD_empty, Int64.zero_add]

/-- A listed tier has its count, and another one has none. -/
theorem get?_eq_ite (tiers : TierMap) (tier : String) :
    tiers.get? tier = if tier ∈ tiers.tiers then some (tiers.getD tier) else none := by
  simp only [mem_tiers_iff, getD]
  cases tiers.get? tier <;> simp

theorem get?_ofList (pairs : List (String × Int64)) (tier : String) :
    (ofList pairs).get? tier
      = if tier ∈ pairs.map Prod.fst then some (Int64.ofInt (amount tier pairs)) else none := by
  rw [get?_eq_ite, getD_ofList, tiers_ofList]
  simp only [List.mem_eraseDups]

/-! ### Maps of distinct names -/

theorem addEntry_of_not_mem {tier : String} (bytes : Int64) {entries : List (String × Int64)}
    (h : tier ∉ entries.map Prod.fst) :
    addEntry tier bytes entries = entries ++ [(tier, bytes)] := by
  induction entries with
  | nil => rfl
  | cons entry rest ih =>
    obtain ⟨name, count⟩ := entry
    rw [List.map_cons, List.mem_cons, not_or] at h
    rw [addEntry, if_neg (Ne.symm h.1), ih h.2, List.cons_append]

/-- Pairs of new names are appended as they are. -/
theorem entries_addAll {tiers : TierMap} {pairs : List (String × Int64)}
    (h : ((tiers.entries ++ pairs).map Prod.fst).Nodup) :
    (tiers.addAll pairs).entries = tiers.entries ++ pairs := by
  induction pairs generalizing tiers with
  | nil => exact (List.append_nil _).symm
  | cons pair rest ih =>
    have hfresh : pair.1 ∉ tiers.entries.map Prod.fst := by
      rw [List.map_append, List.map_cons, List.nodup_append] at h
      intro hmem
      exact h.2.2 pair.1 hmem pair.1 List.mem_cons_self rfl
    have hentries : (tiers.add pair.1 pair.2).entries = tiers.entries ++ [pair] :=
      addEntry_of_not_mem pair.2 hfresh
    have hassoc : tiers.entries ++ pair :: rest = (tiers.add pair.1 pair.2).entries ++ rest := by
      rw [hentries, List.append_assoc, List.singleton_append]
    rw [addAll_cons, hassoc]
    apply ih
    rwa [← hassoc]

/-- A list of distinct names is summed to itself. -/
theorem ofList_entries (tiers : TierMap) : ofList tiers.entries = tiers := by
  ext1
  exact entries_addAll (by simpa using tiers.nodup)

/-! ### Maps with the same counts -/

theorem mem_entries_iff {tiers : TierMap} {tier : String} {bytes : Int64} :
    (tier, bytes) ∈ tiers.entries ↔ tiers.get? tier = some bytes :=
  mem_iff_lookup_eq_some tiers.nodup

/-- The entries are the names with their counts. -/
theorem entries_eq_map (tiers : TierMap) :
    tiers.entries = tiers.tiers.map (fun tier => (tier, tiers.getD tier)) := by
  have hentry : ∀ entry ∈ tiers.entries, (entry.1, tiers.getD entry.1) = entry := by
    rintro ⟨tier, bytes⟩ hmem
    have hcount : tiers.get? tier = some bytes := mem_entries_iff.mp hmem
    rw [getD, hcount, Option.getD_some]
  have hmap : tiers.entries.map (fun entry => (entry.1, tiers.getD entry.1)) = tiers.entries :=
    (List.map_congr_left hentry).trans (List.map_id _)
  rw [TierMap.tiers, List.map_map]
  exact hmap.symm

/-- Maps that list the same names in the same order with the same counts are equal. -/
theorem eq_iff_tiers_getD {a b : TierMap} :
    a = b ↔ a.tiers = b.tiers ∧ ∀ tier ∈ a.tiers, a.getD tier = b.getD tier := by
  constructor
  · rintro rfl
    exact ⟨rfl, fun _ _ => rfl⟩
  · rintro ⟨htiers, hcounts⟩
    ext1
    rw [entries_eq_map a, entries_eq_map b, ← htiers]
    exact List.map_congr_left fun tier htier => by rw [hcounts tier htier]

/-- Maps with the same counts differ in the order of their entries only. -/
theorem perm_entries {a b : TierMap} (h : ∀ tier, a.get? tier = b.get? tier) :
    a.entries.Perm b.entries := by
  rw [List.perm_ext_iff_of_nodup a.nodup.of_map b.nodup.of_map]
  rintro ⟨tier, bytes⟩
  rw [mem_entries_iff, mem_entries_iff, h]

theorem get?_ofList_perm {pairs others : List (String × Int64)} (h : pairs.Perm others)
    (tier : String) : (ofList pairs).get? tier = (ofList others).get? tier := by
  rw [get?_ofList, get?_ofList, amount_perm h]
  simp only [(h.map Prod.fst).mem_iff]

theorem perm_entries_ofList {pairs others : List (String × Int64)} (h : pairs.Perm others) :
    (ofList pairs).entries.Perm (ofList others).entries :=
  perm_entries (get?_ofList_perm h)

/-- What the entries of a map hold for a tier is its count, or nothing. -/
theorem amount_entries (tiers : TierMap) (tier : String) :
    amount tier tiers.entries = ((tiers.get? tier).map Int64.toInt).getD 0 := by
  obtain ⟨entries, hnodup⟩ := tiers
  rw [get?]
  induction entries with
  | nil => rfl
  | cons entry rest ih =>
    obtain ⟨name, count⟩ := entry
    rw [List.map_cons, List.nodup_cons] at hnodup
    rw [amount_cons]
    by_cases h : tier = name
    · subst h
      -- names are distinct, so no later entry is about the tier
      have hfresh : amount tier rest = 0 := by
        have hnone : rest.filter (fun pair => decide (pair.1 = tier)) = [] := by
          rw [List.filter_eq_nil_iff]
          intro pair hpair
          have hne : pair.1 ≠ tier := fun heq => hnodup.1 (List.mem_map.mpr ⟨pair, hpair, heq⟩)
          simpa using hne
        rw [amount, hnone]
        rfl
      simp [hfresh]
    · rw [lookup_cons_of_ne h, if_neg h, zero_add, ih hnodup.2]

end TierMap

end ClusterCapacity
