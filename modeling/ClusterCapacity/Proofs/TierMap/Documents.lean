import ClusterCapacity.Proofs.Json.WorkerMembers
import ClusterCapacity.Proofs.TierMap.Sums
import ClusterCapacity.Proofs.Wire.RoundTrip

/-!
# Tier maps in documents

An object of which the members are tiers with plain literals is decoded as the tier map of these
pairs, repeated names and all, if every literal is a 64-bit number, and it is rejected otherwise
(`TierMap.decode_pairs`).  So a sum of several literals may wrap around where a single literal may
not.
-/

namespace ClusterCapacity

namespace Json

/-- Whether tokens are a plain literal of an integer, of any size. -/
def SpellsLiteral (value : Int) (tokens : List Token) : Prop :=
  ∃ numeral : Numeral, numeral.IsPlain ∧ numeral.signed = value ∧
    tokens = [.number (.ok numeral)]

/-- A plain literal is read as a 64-bit number just when the number is what it denotes. -/
theorem SpellsLiteral.spellsInt64_iff {value : Int} {tokens : List Token}
    (h : SpellsLiteral value tokens) {count : Int64} :
    SpellsInt64 count tokens ↔ value = count.toInt := by
  obtain ⟨numeral, hplain, rfl, rfl⟩ := h
  constructor
  · rintro ⟨other, hvalue, heq⟩
    obtain rfl : numeral = other := by simpa using heq
    exact (Numeral.eq_signed_of_integer? (Numeral.value_eq_integer_iff.mp hvalue)).symm
  · intro heq
    have hfits := Decimal.fitsInt64_toInt count
    rw [← heq] at hfits
    refine ⟨numeral, Numeral.value_eq_integer_iff.mpr ?_, rfl⟩
    rw [Numeral.integer?_of_isPlain hplain hfits, heq]

/-- A printed integer is a plain literal. -/
theorem spellsLiteral_ofInt (value : Int) : SpellsLiteral value [.number (.ok (.ofInt value))] :=
  ⟨_, Numeral.isPlain_ofInt value, Numeral.signed_ofInt value, rfl⟩

theorem SpellsLiteral.isValue {value : Int} {tokens : List Token} (h : SpellsLiteral value tokens) :
    IsValue tokens := by
  obtain ⟨numeral, -, -, rfl⟩ := h
  exact .scalar rfl

end Json

open Json

namespace TierMap

/-- A pair with its count as an integer. -/
def widened (pair : String × Int64) : String × Int := (pair.1, pair.2.toInt)

/-- A pair with its integer cut to 64 bits. -/
def narrowed (pair : String × Int) : String × Int64 := (pair.1, Int64.ofInt pair.2)

/-- Whether an integer is a signed 64-bit number. -/
def InRange (value : Int) : Prop := -2 ^ 63 ≤ value ∧ value < 2 ^ 63

theorem narrowed_widened (pair : String × Int64) : narrowed (widened pair) = pair := by
  rw [narrowed, widened, Int64.ofInt_toInt]

theorem widened_narrowed {pair : String × Int} (h : InRange pair.2) :
    widened (narrowed pair) = pair := by
  rw [widened, narrowed, Int64.toInt_ofInt_of_le h.1 h.2]

theorem inRange_widened (pair : String × Int64) : InRange (widened pair).2 :=
  ⟨Int64.le_toInt pair.2, Int64.toInt_lt pair.2⟩

variable {pairs : List (String × Int)} {counts : List (String × Int64)} {members : List Member}

/-- Members of literals are read as counts just when the counts are what the literals denote. -/
theorem forall₂_spellsInt64_iff (h : List.Forall₂ (SpellsMember SpellsLiteral) pairs members) :
    List.Forall₂ (SpellsMember SpellsInt64) counts members ↔ pairs = counts.map widened := by
  induction h generalizing counts with
  | nil =>
    cases counts with
    | nil => exact iff_of_true .nil rfl
    | cons => exact iff_of_false nofun nofun
  | @cons pair member pairs members hmember _ ih =>
    cases counts with
    | nil => exact iff_of_false nofun nofun
    | cons count counts =>
      obtain ⟨name, value⟩ := pair
      have hname : member.name.text = .ok count.1 ↔ name = count.1 := by
        rw [hmember.1]
        exact ⟨Except.ok.inj, congrArg _⟩
      rw [List.forall₂_cons, ih, SpellsMember, hname, hmember.2.spellsInt64_iff, List.map_cons,
        List.cons.injEq, widened, Prod.mk.injEq]

/-- Whether a text is an object that has the pairs as its members in order, each integer as a plain
literal. -/
def WrittenIn (pairs : List (String × Int)) (text : String) : Prop :=
  ∃ tokens, SpellsPairs SpellsLiteral pairs tokens ∧ Spelling tokens text.toList

variable {text : String} {tiers : TierMap}

/-- Pairs of literals are a value. -/
theorem isValue_of_spellsPairs {tokens : List Token} (h : SpellsPairs SpellsLiteral pairs tokens) :
    IsValue tokens := by
  obtain ⟨members, hmembers, rfl⟩ := h
  exact .object (forall_of_forall₂ hmembers fun hmember => Quoted.check_of_text hmember.1)
    (forall_of_forall₂ hmembers fun hmember => hmember.2.isValue)

/-- A text of pairs is decoded as the map of the counts that they denote. -/
theorem WrittenIn.decode_iff (h : WrittenIn pairs text) :
    decode TierMap.shape text = .ok tiers ↔
      ∃ counts, pairs = counts.map widened ∧ tiers = ofList counts := by
  obtain ⟨tokens, hpairs, hspelling⟩ := h
  rw [decode_eq_ok_iff exact_shape (isValue_of_spellsPairs hpairs) hspelling]
  obtain ⟨members, hmembers, rfl⟩ := hpairs
  have hvalues : ∀ member ∈ members, IsValue member.value :=
    forall_of_forall₂ hmembers fun hmember => hmember.2.isValue
  constructor
  · rintro ⟨counts, hcounts, rfl⟩
    obtain ⟨others, hothers, heq⟩ := hcounts
    have hotherValues : ∀ member ∈ others, IsValue member.value :=
      forall_of_forall₂ hothers fun hmember => Reader.exact_int64.isValue hmember.2
    obtain rfl := objectTokens_inj hvalues hotherValues heq
    exact ⟨counts, (forall₂_spellsInt64_iff hmembers).mp hothers, rfl⟩
  · rintro ⟨counts, hpairs, rfl⟩
    exact ⟨counts, ⟨members, (forall₂_spellsInt64_iff hmembers).mpr hpairs, rfl⟩, rfl⟩

theorem inRange_of_eq (h : pairs = counts.map widened) : ∀ pair ∈ pairs, InRange pair.2 := by
  rw [h, List.forall_mem_map]
  exact fun pair _ => inRange_widened pair

theorem eq_map_widened (h : ∀ pair ∈ pairs, InRange pair.2) :
    pairs = (pairs.map narrowed).map widened := by
  rw [List.map_map]
  conv_lhs => rw [← List.map_id pairs]
  exact List.map_congr_left fun pair hpair => (widened_narrowed (h pair hpair)).symm

theorem map_narrowed_of_eq (h : pairs = counts.map widened) : pairs.map narrowed = counts := by
  rw [h, List.map_map]
  exact List.map_id'' narrowed_widened counts

/-- The counts of a name add up to the integers of the name. -/
theorem amount_eq_of_eq (h : pairs = counts.map widened) (tier : String) :
    amount tier counts = ((pairs.filter (fun pair => pair.1 = tier)).map Prod.snd).sum := by
  rw [h, List.filter_map, List.map_map]
  rfl

/-- A list of pairs that is written as an object is decoded just if each integer is a 64-bit number,
and then as the map that adds up the pairs in turn: it lists the names in the order in which they
appear first, and the integer sum of a name is wrapped to 64 bits. -/
theorem decode_pairs (h : WrittenIn pairs text) :
    ((∃ tiers, decode TierMap.shape text = .ok tiers) ↔ ∀ pair ∈ pairs, InRange pair.2) ∧
    ((∃ pair ∈ pairs, ¬ InRange pair.2) → ∃ error, decode TierMap.shape text = .error error) ∧
    ∀ tiers, decode TierMap.shape text = .ok tiers →
      tiers = ofList (pairs.map narrowed) ∧
      tiers = (pairs.map narrowed).foldl (fun tiers pair => tiers.add pair.1 pair.2) ∅ ∧
      tiers.tiers = (pairs.map Prod.fst).eraseDups ∧
      (∀ tier, tiers.getD tier
        = Int64.ofInt ((pairs.filter (fun pair => pair.1 = tier)).map Prod.snd).sum) ∧
      decode TierMap.shape tiers.toJson.compact = .ok tiers := by
  have hiff : (∃ tiers, decode TierMap.shape text = .ok tiers) ↔
      ∀ pair ∈ pairs, InRange pair.2 := by
    constructor
    · rintro ⟨tiers, hdecode⟩
      obtain ⟨counts, hpairs, -⟩ := h.decode_iff.mp hdecode
      exact inRange_of_eq hpairs
    · intro hrange
      exact ⟨_, h.decode_iff.mpr ⟨pairs.map narrowed, eq_map_widened hrange, rfl⟩⟩
  refine ⟨hiff, ?_, ?_⟩
  · rintro ⟨pair, hpair, houtside⟩
    cases hresult : decode TierMap.shape text with
    | ok tiers => exact absurd (hiff.mp ⟨tiers, hresult⟩ pair hpair) houtside
    | error error => exact ⟨error, rfl⟩
  · intro tiers hdecode
    obtain ⟨counts, hpairs, rfl⟩ := h.decode_iff.mp hdecode
    have hcounts : pairs.map narrowed = counts := map_narrowed_of_eq hpairs
    have hnames : counts.map Prod.fst = pairs.map Prod.fst := by
      rw [hpairs, List.map_map]
      rfl
    refine ⟨by rw [hcounts], by rw [hcounts]; rfl, ?_, fun tier => ?_,
      inverts_shape.roundTrip.decode_eq _⟩
    · rw [tiers_ofList, hnames]
    · rw [getD_ofList, amount_eq_of_eq hpairs]

/-- A repeated name, once escaped, of which the sum wraps around, and a literal that is one too
large. -/
theorem decode_pairs_wrapping :
    let pairs : List (String × Int) := [("MEM", 2 ^ 63 - 1), ("", -5), ("MEM", 1)]
    let text := "\x7b\"MEM\": 9223372036854775807,\"\":-5, \"\\u004dEM\":1\x7d"
    let outside : List (String × Int) := [("MEM", 2 ^ 63)]
    let other := "\x7b\"MEM\": 9223372036854775808\x7d"
    WrittenIn pairs text ∧
      decode TierMap.shape text = .ok (ofList [("MEM", Int64.minValue), ("", -5)]) ∧
      WrittenIn outside other ∧ ∃ error, decode TierMap.shape other = .error error := by
  intro pairs text outside other
  have hpairs : SpellsPairs SpellsLiteral pairs (objectTokens [
      ⟨⟨"MEM".toList.map .char, none⟩, [.number (.ok (.ofInt (2 ^ 63 - 1)))]⟩,
      ⟨⟨[], none⟩, [.number (.ok (.ofInt (-5)))]⟩,
      ⟨⟨.unit 77 :: "EM".toList.map .char, none⟩, [.number (.ok (.ofInt 1))]⟩]) :=
    ⟨_, .cons ⟨rfl, spellsLiteral_ofInt _⟩ (.cons ⟨rfl, spellsLiteral_ofInt _⟩
      (.cons ⟨rfl, spellsLiteral_ofInt _⟩ .nil)), rfl⟩
  have htext : WrittenIn pairs text :=
    ⟨_, hpairs, (spelling_iff (isValue_of_spellsPairs hpairs)).mpr (by decide +kernel)⟩
  have houtside : SpellsPairs SpellsLiteral outside (objectTokens [
      ⟨⟨"MEM".toList.map .char, none⟩, [.number (.ok (.ofInt (2 ^ 63)))]⟩]) :=
    ⟨_, .cons ⟨rfl, spellsLiteral_ofInt _⟩ .nil, rfl⟩
  have hother : WrittenIn outside other :=
    ⟨_, houtside, (spelling_iff (isValue_of_spellsPairs houtside)).mpr (by decide +kernel)⟩
  have hrange : ∀ pair ∈ pairs, InRange pair.2 := by
    simp only [pairs, List.forall_mem_cons, InRange]
    exact ⟨by decide, by decide, by decide, nofun⟩
  obtain ⟨tiers, htiers⟩ := (decode_pairs htext).1.mpr hrange
  obtain ⟨rfl, -⟩ := (decode_pairs htext).2.2 tiers htiers
  exact ⟨htext, htiers, hother,
    (decode_pairs hother).2.1 ⟨_, List.mem_cons_self, by simp [InRange]⟩⟩

end TierMap

end ClusterCapacity
