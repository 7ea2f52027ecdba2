/-!
# Bytes per storage tier

A `TierMap` lists tier names with a byte count each, in the order in which the names were first
seen; no name is listed twice.  Counts are 64-bit and adding to a count wraps around.
-/

namespace ClusterCapacity

/-- Adds `bytes` to the entry of `tier`, which is appended when it is missing. -/
def addEntry (tier : String) (bytes : Int64) : List (String × Int64) → List (String × Int64)
  | [] => [(tier, bytes)]
  | (name, count) :: rest =>
    if name = tier then (name, count + bytes) :: rest else (name, count) :: addEntry tier bytes rest

theorem map_fst_addEntry (tier : String) (bytes : Int64) (entries : List (String × Int64)) :
    (addEntry tier bytes entries).map Prod.fst
      = if tier ∈ entries.map Prod.fst then entries.map Prod.fst
        else entries.map Prod.fst ++ [tier] := by
  induction entries with
  | nil => simp [addEntry]
  | cons entry rest ih =>
    obtain ⟨name, count⟩ := entry
    by_cases h : name = tier
    · simp [addEntry, h]
    · have h' : tier ≠ name := Ne.symm h
      simp only [addEntry, h, ↓reduceIte, List.map_cons, ih, List.mem_cons, h', false_or]
      split <;> simp

theorem nodup_addEntry (tier : String) (bytes : Int64) (entries : List (String × Int64))
    (h : (entries.map Prod.fst).Nodup) : ((addEntry tier bytes entries).map Prod.fst).Nodup := by
  rw [map_fst_addEntry]
  split
  · exact h
  · rename_i hmem
    rw [List.nodup_append]
    refine ⟨h, by simp, ?_⟩
    intro a ha b hb hab
    simp only [List.mem_singleton] at hb
    exact hmem (hb ▸ hab ▸ ha)

/-- Byte counts by tier name, in first-seen order and with every name once. -/
structure TierMap where
  entries : List (String × Int64)
  nodup : (entries.map Prod.fst).Nodup
deriving DecidableEq

namespace TierMap

/-- The map without tiers. -/
def empty : TierMap := ⟨[], List.nodup_nil⟩

instance : EmptyCollection TierMap := ⟨empty⟩
instance : Inhabited TierMap := ⟨empty⟩

/-- The count of `tier`, if it is listed. -/
def get? (tiers : TierMap) (tier : String) : Option Int64 := tiers.entries.lookup tier

/-- The count of `tier`, zero when it is not listed. -/
def getD (tiers : TierMap) (tier : String) : Int64 := (tiers.get? tier).getD 0

/-- Adds `bytes` to the count of `tier`, listing it last when it is new. -/
def add (tiers : TierMap) (tier : String) (bytes : Int64) : TierMap :=
  ⟨addEntry tier bytes tiers.entries, nodup_addEntry tier bytes tiers.entries tiers.nodup⟩

/-- Adds the pairs in turn. -/
def addAll (tiers : TierMap) (pairs : List (String × Int64)) : TierMap :=
  pairs.foldl (fun tiers pair => tiers.add pair.1 pair.2) tiers

/-- Adds every tier of `other`. -/
def merge (tiers other : TierMap) : TierMap := tiers.addAll other.entries

/-- The map of a list of pairs; repeated names are summed at their first place. -/
def ofList (pairs : List (String × Int64)) : TierMap := empty.addAll pairs

/-- The names in first-seen order. -/
def tiers (tiers : TierMap) : List String := tiers.entries.map Prod.fst

/-- The number of names. -/
def size (tiers : TierMap) : Nat := tiers.entries.length

/-- Whether no tier is listed. -/
def isEmpty (tiers : TierMap) : Bool := tiers.entries.isEmpty

@[ext]
theorem ext {a b : TierMap} (h : a.entries = b.entries) : a = b := by
  cases a; cases b; cases h; rfl

@[simp]
theorem entries_empty : empty.entries = [] := rfl

@[simp]
theorem entries_add (tiers : TierMap) (tier : String) (bytes : Int64) :
    (tiers.add tier bytes).entries = addEntry tier bytes tiers.entries := rfl

end TierMap

end ClusterCapacity
