import ClusterCapacity.Proofs.Json.Sound
import ClusterCapacity.Proofs.TierMap.Sums
import ClusterCapacity.Proofs.Yaml.Sound
import ClusterCapacity.Wire.Shape

/-!
# Tier maps over a history of changes

A tier map is changed by adding to it and by putting another map in its place, be it one that is
collected from pairs or one that is decoded from a document.  Every change keeps what the map is to
the pairs that have been contributed to it since it was replaced last (`apply_ofList`), so after any
history it is the sum of those pairs (`after_eq_ofList`), and everything that can be seen of it is
known from them (`histories_sum_up`).
-/

namespace ClusterCapacity.TierMap

open Wire

/-! ### Documents -/

/-- The text of a document in one of the two formats. -/
inductive Document where
  | json (text : String)
  | yaml (text : String)

namespace Document

/-- Reads a document in its format. -/
def decode {α : Type} (read : {R : Type → Type} → [Format R] → R α) :
    Document → Except DecodeError α
  | json text => Json.decode read text
  | yaml text => Yaml.decode read text

/-- The tier map of a document. -/
def tiers (document : Document) : Except DecodeError TierMap := document.decode TierMap.shape

/-- The pairs of a document as they are written, with repeated names. -/
def pairs (document : Document) : Except DecodeError (List (String × Int64)) :=
  document.decode (Format.entries "a map from tier name to bytes" Format.int64)

/-- Whether the pairs are what is written in a document, in order. -/
def Holds (pairs : List (String × Int64)) : Document → Prop
  | json text => ∃ tokens, Json.SpellsPairs Json.SpellsInt64 pairs tokens ∧
      Json.Spelling tokens text.toList
  | yaml text => ∃ document, Yaml.Document.ofText text = .ok document ∧
      Yaml.HoldsPairs Yaml.HoldsInt64 document document.root pairs

/-- The tier map of a document is the sum of its pairs. -/
theorem tiers_eq_map (document : Document) : document.tiers = document.pairs.map ofList := by
  cases document with
  | json text => exact Json.decode_map ofList _ text
  | yaml text => exact Yaml.decode_map ofList _ text

/-- The pairs that are read from a document are written there. -/
theorem holds_of_pairs {document : Document} {pairs : List (String × Int64)}
    (h : document.pairs = .ok pairs) : document.Holds pairs := by
  cases document with
  | json text =>
    exact Json.exists_spelling_of_decode (Json.Reader.sound_entries _ Json.Reader.sound_int64)
      (Json.Reader.careful_entries _ Json.Reader.careful_int64) h
  | yaml text =>
    exact Yaml.exists_holds_of_decode (Yaml.Reader.tells_entries _ Yaml.Reader.tells_int64) h

end Document

/-! ### Changes -/

/-- A change of a tier map. -/
inductive Change where
  | add (tier : String) (bytes : Int64)
  | merge (other : TierMap)
  /-- The map of the pairs takes its place. -/
  | collect (pairs : List (String × Int64))
  | clear
  /-- The map of a document takes its place, if there is one. -/
  | decode (document : Document)

/-- The tier map after a change. -/
def apply (tiers : TierMap) : Change → TierMap
  | .add tier bytes => tiers.add tier bytes
  | .merge other => tiers.merge other
  | .collect pairs => ofList pairs
  | .clear => empty
  | .decode document =>
    match document.tiers with
    | .ok replacement => replacement
    | .error _ => tiers

/-- The empty map after some changes. -/
def after (changes : List Change) : TierMap := changes.foldl apply empty

/-- The pairs contributed since the last replacement, after one more change. -/
def contribute (ledger : List (String × Int64)) : Change → List (String × Int64)
  | .add tier bytes => ledger ++ [(tier, bytes)]
  | .merge other => ledger ++ other.entries
  | .collect pairs => pairs
  | .clear => []
  | .decode document =>
    match document.pairs with
    | .ok pairs => pairs
    | .error _ => ledger

/-- The pairs that some changes have contributed since the last replacement. -/
def contributed (changes : List Change) : List (String × Int64) := changes.foldl contribute []

/-- A change makes of the sum of a ledger the sum of the ledger after the change. -/
theorem apply_ofList (ledger : List (String × Int64)) (change : Change) :
    (ofList ledger).apply change = ofList (contribute ledger change) := by
  cases change with
  | add tier bytes => exact (addAll_append empty ledger [(tier, bytes)]).symm
  | merge other => exact (addAll_append empty ledger other.entries).symm
  | collect pairs => rfl
  | clear => rfl
  | decode document =>
    -- the map and the pairs of a document are there together, or neither is
    rw [apply, contribute, document.tiers_eq_map]
    cases document.pairs <;> rfl

theorem foldl_apply_ofList (ledger : List (String × Int64)) (changes : List Change) :
    changes.foldl apply (ofList ledger) = ofList (changes.foldl contribute ledger) := by
  -- each change starts from another ledger, so the claim is about all of them
  induction changes generalizing ledger with
  | nil => rfl
  | cons change changes ih => rw [List.foldl_cons, List.foldl_cons, apply_ofList, ih]

/-- After any history the map is the sum of what has been contributed to it. -/
theorem after_eq_ofList (changes : List Change) : after changes = ofList (contributed changes) :=
  foldl_apply_ofList [] changes

/-! ### What is seen of a map -/

/-- What a tier map is to a list of pairs that it sums up. -/
structure SumsUp (tiers : TierMap) (ledger : List (String × Int64)) : Prop where
  nodup : tiers.tiers.Nodup
  /-- The names are those of the pairs, in the order in which they appear first. -/
  tiers_eq : tiers.tiers = (ledger.map Prod.fst).eraseDups
  size_eq : tiers.size = (ledger.map Prod.fst).toFinset.card
  entries_eq : tiers.entries
    = tiers.tiers.map (fun tier => (tier, Int64.ofInt (amount tier ledger)))
  get?_eq : ∀ tier, tiers.get? tier
    = if tier ∈ ledger.map Prod.fst then some (Int64.ofInt (amount tier ledger)) else none
  getD_eq : ∀ tier, tiers.getD tier
    = if tier ∈ ledger.map Prod.fst then Int64.ofInt (amount tier ledger) else 0

theorem sumsUp_ofList (ledger : List (String × Int64)) : (ofList ledger).SumsUp ledger where
  nodup := (ofList ledger).nodup
  tiers_eq := tiers_ofList ledger
  size_eq := by
    have hnames : (ofList ledger).tiers.toFinset = (ledger.map Prod.fst).toFinset := by
      ext tier
      rw [tiers_ofList, List.mem_toFinset, List.mem_toFinset, List.mem_eraseDups]
    have hcard : (ofList ledger).tiers.toFinset.card = (ofList ledger).tiers.length :=
      List.toFinset_card_of_nodup (ofList ledger).nodup
    have hlength : (ofList ledger).tiers.length = (ofList ledger).size := List.length_map ..
    rw [← hnames, hcard, hlength]
  entries_eq := by
    rw [entries_eq_map]
    simp only [getD_ofList]
  get?_eq := get?_ofList ledger
  getD_eq := fun tier => by
    rw [getD, get?_ofList]
    split <;> rfl

/-! ### Histories -/

/-- After any history of changes a tier map sums up the pairs that have been contributed to it since
it was replaced last: every name is listed once, in the order of first appearance, with the sum of
its pairs wrapped to 64 bits, and no other name has a count.  A document that cannot be decoded
leaves the map as it was, and one that can be decoded contributes the pairs that are written in it.
The maps after two histories are equal if they list the same names in the same order with the same
counts. -/
theorem histories_sum_up (changes others : List Change) :
    (after changes).SumsUp (contributed changes) ∧
    (∀ document : Document,
      (∀ error, document.tiers = .error error →
        after (changes ++ [.decode document]) = after changes) ∧
      (∀ replacement, document.tiers = .ok replacement →
        after (changes ++ [.decode document]) = replacement ∧
        ∃ pairs, document.Holds pairs ∧ contributed (changes ++ [.decode document]) = pairs)) ∧
    (after changes = after others ↔
      (after changes).tiers = (after others).tiers ∧
      ∀ tier ∈ (after changes).tiers, (after changes).getD tier = (after others).getD tier) := by
  have hlast (document : Document) :
      after (changes ++ [.decode document]) = (after changes).apply (.decode document) := by
    rw [after, List.foldl_append]
    rfl
  refine ⟨?_, fun document => ⟨fun error herror => ?_, fun replacement hreplacement => ?_⟩,
    eq_iff_tiers_getD⟩
  · rw [after_eq_ofList]
    exact sumsUp_ofList _
  · rw [hlast, apply, herror]
  · obtain ⟨pairs, hpairs, -⟩ := map_eq_ok.mp (document.tiers_eq_map ▸ hreplacement)
    refine ⟨by rw [hlast, apply, hreplacement], pairs, Document.holds_of_pairs hpairs, ?_⟩
    rw [contributed, List.foldl_append]
    show contribute _ (.decode document) = pairs
    rw [contribute, hpairs]

/-- Names repeat in a document and in a sum that wraps; a list of tiers is no map. -/
example : (after [.add "HDD" 7, .decode (.json "\x7b\"SSD\":1,\"MEM\":2,\"SSD\":3\x7d"),
    .merge (ofList [("MEM", 9223372036854775807), ("HDD", 5)]), .decode (.yaml "- SSD")]).entries
    = [("SSD", 4), ("MEM", -9223372036854775807), ("HDD", 5)] := by
  decide +kernel

end ClusterCapacity.TierMap
