import ClusterCapacity.Proofs.Yaml.Tokens
import ClusterCapacity.Yaml.Node

/-!
# The node of JSON as YAML

The tokens of a JSON value are composed to one node without anchors or tags that has the structure
of the value (`Document.ofText_compact`).  Words and numbers are plain scalars, texts and names
quoted ones.
-/

namespace ClusterCapacity

open Yaml

namespace Json

mutual

/-- The YAML node of a value. -/
def yamlNode : Json → Node
  | null => .scalar .plain none "null"
  | bool value => .scalar .plain none (String.ofList (truth value))
  | int value => .scalar .plain none (String.ofList (decimal value))
  | str text => .scalar .doubleQuoted none text
  | arr items => .sequence none (yamlItems items)
  | obj members => .mapping none (yamlPairs members)

/-- The nodes of items. -/
def yamlItems : List Json → List Node
  | [] => []
  | item :: rest => item.yamlNode :: yamlItems rest

/-- The pairs of members. -/
def yamlPairs : List (String × Json) → List (Node × Node)
  | [] => []
  | (name, value) :: rest => (.scalar .doubleQuoted none name, value.yamlNode) :: yamlPairs rest

end

theorem yamlItems_eq_map (items : List Json) : yamlItems items = items.map yamlNode := by
  induction items with
  | nil => rfl
  | cons item items ih => rw [yamlItems, ih, List.map_cons]

theorem yamlPairs_eq_map (members : List (String × Json)) : yamlPairs members
    = members.map (fun member => (.scalar .doubleQuoted none member.1, member.2.yamlNode)) := by
  induction members with
  | nil => rfl
  | cons member members ih => rw [yamlPairs, ih, List.map_cons]

/-- The tokens of a value begin with a scalar or an opening bracket. -/
theorem exists_yamlTokens_eq_cons (value : Json) : ∃ token tokens,
    value.yamlTokens = token :: tokens ∧ ((∃ style text, token = .scalar style text) ∨
      token = .flowSequenceStart ∨ token = .flowMappingStart) := by
  match value with
  | null | bool _ | int _ | str _ => exact ⟨_, _, rfl, .inl ⟨_, _, rfl⟩⟩
  | arr [] | arr (_ :: _) => exact ⟨_, _, rfl, .inr (.inl rfl)⟩
  | obj [] | obj ((_, _) :: _) => exact ⟨_, _, rfl, .inr (.inr rfl)⟩

theorem length_yamlTokens_pos (value : Json) : 0 < value.yamlTokens.length := by
  obtain ⟨token, tokens, heq, -⟩ := exists_yamlTokens_eq_cons value
  rw [heq]
  exact Nat.succ_pos _

theorem length_yamlItemTokens_pos (items : List Json) : 0 < (yamlItemTokens items).length := by
  cases items <;> exact Nat.succ_pos _

end Json

namespace Yaml.Composer

/-- The composer with other tokens left and another number of events. -/
def holding (composer : Composer) (tokens : List Token) (events : Nat) : Composer :=
  { composer with tokens, events }

variable {composer : Composer} {fuel events : Nat}

/-! ### Items and pairs -/

/-- The tokens with a comma in front, unless they are the first. -/
def separated (first : Bool) (tokens : List Token) : List Token :=
  if first then tokens else .flowEntry :: tokens

/-- An item is composed, then the items after it. -/
theorem flowItems_item (first : Bool) {value : Json} {rest : List Token} {next : Nat}
    {nodes : List Node} {last : Composer}
    (hitem : node .flow fuel (composer.holding (value.yamlTokens ++ rest) events)
      = .ok (value.yamlNode, composer.holding rest next))
    (hitems : flowItems false fuel (composer.holding rest next) = .ok (nodes, last)) :
    flowItems first (fuel + 1)
        (composer.holding (separated first (value.yamlTokens ++ rest)) events)
      = .ok (value.yamlNode :: nodes, last) := by
  obtain ⟨token, tokens, heq, htoken⟩ := Json.exists_yamlTokens_eq_cons value
  rw [heq] at hitem ⊢
  cases first <;> rcases htoken with ⟨style, text, rfl⟩ | rfl | rfl <;>
    simp only [holding, separated, List.cons_append, flowItems, flowEntry, ↓reduceIte, bind,
      Except.bind, Bool.false_eq_true, skip, List.drop_one, List.tail_cons] at hitem hitems ⊢ <;>
    simp only [hitem, hitems]

/-- A name in quotes is composed in two steps. -/
theorem node_name (composer : Composer) (fuel events : Nat) (position : Position) (name : String)
    (rest : List Token) :
    node position (fuel + 2) (composer.holding (.scalar .doubleQuoted name :: rest) events)
      = .ok (.scalar .doubleQuoted none name, composer.holding rest (events + 1)) :=
  rfl

/-- A pair is composed, then the pairs after it. -/
theorem flowPairs_member (first : Bool) {name : String} {value : Json} {rest : List Token}
    {next : Nat} {pairs : List (Node × Node)} {last : Composer}
    (hvalue : node .flow (fuel + 2) (composer.holding (value.yamlTokens ++ rest) (events + 1))
      = .ok (value.yamlNode, composer.holding rest next))
    (hpairs : flowPairs false (fuel + 2) (composer.holding rest next) = .ok (pairs, last)) :
    flowPairs first (fuel + 2 + 1) (composer.holding (separated first
        (.key :: .scalar .doubleQuoted name :: .value :: (value.yamlTokens ++ rest))) events)
      = .ok ((.scalar .doubleQuoted none name, value.yamlNode) :: pairs, last) := by
  obtain ⟨token, tokens, heq, htoken⟩ := Json.exists_yamlTokens_eq_cons value
  have hname := node_name composer fuel events .flow name (.value :: (value.yamlTokens ++ rest))
  rw [heq] at hvalue hname ⊢
  generalize fuel + 2 = enough at *
  cases first <;> rcases htoken with ⟨style, text, rfl⟩ | rfl | rfl <;>
    simp only [holding, separated, List.cons_append, flowPairs, flowEntry, ↓reduceIte, bind,
      Except.bind, Bool.false_eq_true, skip, List.drop_one, List.tail_cons, endsFlowPart,
      decide_false, reduceCtorEq] at hvalue hpairs hname ⊢ <;>
    simp only [hname, hvalue, hpairs, List.tail_cons, reduceCtorEq, decide_false,
      Bool.false_eq_true, ↓reduceIte]

/-! ### Values -/

theorem node_sequence (position : Position) {tokens rest : List Token} {nodes : List Node}
    {last : Nat} (h : flowItems true fuel (composer.holding tokens (events + 2))
      = .ok (nodes, composer.holding rest last)) :
    node position (fuel + 2) (composer.holding (.flowSequenceStart :: tokens) events)
      = .ok (.sequence none nodes, composer.holding rest last) := by
  show (flowItems true fuel (composer.holding tokens (events + 2)) >>= fun items =>
    (Except.ok (Node.sequence none items.1, items.2) : Except Fault (Node × Composer))) >>=
    (fun found => Except.ok (found.1, found.2)) = _
  rw [h]
  rfl

theorem node_mapping (position : Position) {tokens rest : List Token}
    {pairs : List (Node × Node)} {last : Nat}
    (h : flowPairs true fuel (composer.holding tokens (events + 2))
      = .ok (pairs, composer.holding rest last)) :
    node position (fuel + 2) (composer.holding (.flowMappingStart :: tokens) events)
      = .ok (.mapping none pairs, composer.holding rest last) := by
  show (flowPairs true fuel (composer.holding tokens (events + 2)) >>= fun pairs =>
    (Except.ok (Node.mapping none pairs.1, pairs.2) : Except Fault (Node × Composer))) >>=
    (fun found => Except.ok (found.1, found.2)) = _
  rw [h]
  rfl

mutual

/-- The tokens of a value are composed to its node, in any position; no more than two calls inside
each other are needed for a token. -/
theorem node_yamlTokens (value : Json) (composer : Composer) (rest : List Token) (fuel : Nat)
    (hfuel : 2 * value.yamlTokens.length ≤ fuel) (position : Position) (events : Nat) :
    ∃ last, node position fuel (composer.holding (value.yamlTokens ++ rest) events)
      = .ok (value.yamlNode, composer.holding rest last) := by
  obtain ⟨fuel, rfl⟩ : ∃ less, fuel = less + 2 := by
    have hpos := Json.length_yamlTokens_pos value
    exact ⟨fuel - 2, by omega⟩
  match value with
  | .null | .bool value | .int value | .str text => exact ⟨events + 1, rfl⟩
  | .arr [] | .obj [] =>
    obtain ⟨fuel, rfl⟩ : ∃ less, fuel = less + 1 := ⟨fuel - 1, by
      simp only [Json.yamlTokens, List.length_cons, List.length_nil] at hfuel
      omega⟩
    exact ⟨events + 2, rfl⟩
  | .arr (item :: items) =>
    rw [Json.yamlTokens, List.length_cons, List.length_append] at hfuel
    have hpos := Json.length_yamlItemTokens_pos items
    obtain ⟨fuel, rfl⟩ : ∃ less, fuel = less + 1 := ⟨fuel - 1, by omega⟩
    obtain ⟨next, hitem⟩ := node_yamlTokens item composer (Json.yamlItemTokens items ++ rest)
      fuel (by omega) .flow (events + 2)
    obtain ⟨last, hitems⟩ := flowItems_yamlItemTokens items composer rest fuel (by omega)
      next
    refine ⟨last, ?_⟩
    rw [Json.yamlTokens, List.cons_append, List.append_assoc]
    exact node_sequence position (flowItems_item true hitem hitems)
  | .obj ((name, value) :: members) =>
    rw [Json.yamlTokens] at hfuel
    simp only [List.length_cons, List.length_append] at hfuel
    obtain ⟨fuel, rfl⟩ : ∃ less, fuel = less + 2 + 1 := ⟨fuel - 3, by omega⟩
    obtain ⟨next, hvalue⟩ := node_yamlTokens value composer
      (Json.yamlMemberTokens members ++ rest) (fuel + 2) (by omega) .flow (events + 3)
    obtain ⟨last, hmembers⟩ := flowPairs_yamlMemberTokens members composer rest
      (fuel + 2) (by omega) next
    refine ⟨last, ?_⟩
    rw [Json.yamlTokens]
    simp only [List.cons_append, List.append_assoc]
    exact node_mapping position (flowPairs_member true hvalue hmembers)

theorem flowItems_yamlItemTokens (items : List Json) (composer : Composer) (rest : List Token)
    (fuel : Nat) (hfuel : 2 * (Json.yamlItemTokens items).length ≤ fuel + 1) (events : Nat) :
    ∃ last, flowItems false fuel (composer.holding (Json.yamlItemTokens items ++ rest) events)
      = .ok (Json.yamlItems items, composer.holding rest last) := by
  match items with
  | [] =>
    obtain ⟨fuel, rfl⟩ : ∃ less, fuel = less + 1 := ⟨fuel - 1, by
      simp only [Json.yamlItemTokens, List.length_cons, List.length_nil] at hfuel
      omega⟩
    exact ⟨events, rfl⟩
  | item :: items =>
    rw [Json.yamlItemTokens, List.length_cons, List.length_append] at hfuel
    have hpos := Json.length_yamlItemTokens_pos items
    obtain ⟨fuel, rfl⟩ : ∃ less, fuel = less + 1 := ⟨fuel - 1, by omega⟩
    obtain ⟨next, hitem⟩ := node_yamlTokens item composer (Json.yamlItemTokens items ++ rest)
      fuel (by omega) .flow events
    obtain ⟨last, hitems⟩ := flowItems_yamlItemTokens items composer rest fuel (by omega)
      next
    refine ⟨last, ?_⟩
    rw [Json.yamlItemTokens, List.cons_append, List.append_assoc]
    exact flowItems_item false hitem hitems

theorem flowPairs_yamlMemberTokens (members : List (String × Json)) (composer : Composer)
    (rest : List Token) (fuel : Nat)
    (hfuel : 2 * (Json.yamlMemberTokens members).length ≤ fuel + 1) (events : Nat) :
    ∃ last, flowPairs false fuel (composer.holding (Json.yamlMemberTokens members ++ rest) events)
      = .ok (Json.yamlPairs members, composer.holding rest last) := by
  match members with
  | [] =>
    obtain ⟨fuel, rfl⟩ : ∃ less, fuel = less + 1 := ⟨fuel - 1, by
      simp only [Json.yamlMemberTokens, List.length_cons, List.length_nil] at hfuel
      omega⟩
    exact ⟨events, rfl⟩
  | (name, value) :: members =>
    rw [Json.yamlMemberTokens] at hfuel
    simp only [List.length_cons, List.length_append] at hfuel
    obtain ⟨fuel, rfl⟩ : ∃ less, fuel = less + 2 + 1 := ⟨fuel - 3, by omega⟩
    obtain ⟨next, hvalue⟩ := node_yamlTokens value composer
      (Json.yamlMemberTokens members ++ rest) (fuel + 2) (by omega) .flow (events + 1)
    obtain ⟨last, hmembers⟩ := flowPairs_yamlMemberTokens members composer rest
      (fuel + 2) (by omega) next
    refine ⟨last, ?_⟩
    rw [Json.yamlMemberTokens]
    simp only [List.cons_append, List.append_assoc]
    exact flowPairs_member false hvalue hmembers

end

end Yaml.Composer

/-! ### Documents -/

/-- The compact text of a value is a document with the node of the value and no anchors. -/
theorem Yaml.Document.ofText_compact {value : Json} (h : value.KeepsLine) :
    ∃ events, Document.ofText value.compact = .ok ⟨value.yamlNode, [], events⟩ := by
  have hroot : ∃ last, Composer.root value.yamlTokens
      = .ok (value.yamlNode, Composer.holding { tokens := [] } [] last) := by
    have hnode := Composer.node_yamlTokens value { tokens := [] } []
      (3 * value.yamlTokens.length + 3) (by omega) .block 0
    rw [List.append_nil] at hnode
    obtain ⟨token, tokens, heq, htoken⟩ := Json.exists_yamlTokens_eq_cons value
    rw [heq] at hnode ⊢
    rcases htoken with ⟨style, text, rfl⟩ | rfl | rfl <;> exact hnode
  obtain ⟨last, hroot⟩ := hroot
  have hempty : value.yamlTokens.isEmpty = false := by
    obtain ⟨token, tokens, heq, -⟩ := Json.exists_yamlTokens_eq_cons value
    rw [heq]
    rfl
  refine ⟨last, ?_⟩
  rw [ofText, Json.prepare_compact h]
  show Token.scan value.compactChars >>= ofTokens = _
  rw [Json.scan_yaml h]
  show ofTokens value.yamlTokens = _
  rw [ofTokens, hempty, hroot]
  rfl

end ClusterCapacity
