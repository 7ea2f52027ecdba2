import ClusterCapacity.Proofs.Results
import ClusterCapacity.Yaml.Reader
import Mathlib.Data.List.Forall2

/-!
# What readers find in a YAML document

`Tells read holds` says that a node holds whatever `read` gives for it.  Nodes are looked at through
their aliases (`StandsFor`): an alias holds what the node at its anchor holds.
-/

namespace ClusterCapacity.Yaml

/-! ### What nodes hold -/

/-- Whether a node of a document stands for another one: an alias for the node at its anchor, and
any other node for itself. -/
inductive StandsFor (document : Document) : Node → Node → Prop where
  | self {node : Node} (h : ∀ slot, node ≠ .alias slot) : StandsFor document node node
  | anchor {slot : Nat} {node : Node} (h : document.node? slot = some node) :
    StandsFor document (.alias slot) node

/-- Whether a node is a scalar with the text. -/
def HoldsText (document : Document) (node : Node) (text : String) : Prop :=
  ∃ style tag, StandsFor document node (.scalar style tag text)

/-- Whether a node is a scalar with the text of an integer of 64 bits. -/
def HoldsInt64 (document : Document) (node : Node) (value : Int64) : Prop :=
  ∃ style tag text, StandsFor document node (.scalar style tag text) ∧
    Reader.mayBeInteger style tag = true ∧ Integer.ofText? text.toList = some value.toInt

/-- Whether the nodes of a key and its value hold the name and the value of a pair. -/
def HoldsPair {α : Type} (holds : Document → Node → α → Prop) (document : Document)
    (pair : String × α) (nodes : Node × Node) : Prop :=
  HoldsText document nodes.1 pair.1 ∧ holds document nodes.2 pair.2

/-- Whether a node is a mapping of which the keys and values hold the pairs, in order.  Where there
are no pairs, nothing may be written at all. -/
def HoldsPairs {α : Type} (holds : Document → Node → α → Prop) (document : Document) (node : Node)
    (pairs : List (String × α)) : Prop :=
  (∃ tag nodes, StandsFor document node (.mapping tag nodes) ∧
    List.Forall₂ (HoldsPair holds document) pairs nodes) ∨
  (∃ blank, StandsFor document node blank ∧ Reader.isBlank blank = true ∧ pairs = [])

/-! ### Readers -/

/-- Whether a node holds what a reader gives for it. -/
structure Tells {α : Type} (read : Reader α) (holds : Document → Node → α → Prop) : Prop where
  holds_of_read {node : Node} {document : Document} {before after : Nat} {value : α}
    (h : (read node document).run before = .ok (value, after)) : holds document node value

namespace Reader

variable {α β : Type} {document : Document} {before after : Nat}

theorem run_bind_eq_ok {step : Reading α} {next : α → Reading β} {value : β}
    (h : ((step >>= next) document).run before = .ok (value, after)) :
    ∃ x between, (step document).run before = .ok (x, between) ∧
      (next x document).run between = .ok (value, after) := by
  change ((step document).run before >>= fun found => (next found.1 document).run found.2) = _ at h
  obtain ⟨found, hstep, hnext⟩ := bind_eq_ok.mp h
  exact ⟨found.1, found.2, hstep, hnext⟩

theorem standsFor_of_resolve {node target : Node}
    (h : (resolve node document).run before = .ok (target, after)) :
    StandsFor document node target := by
  unfold resolve at h
  split at h
  case h_1 slot =>
    obtain ⟨_, _, ⟨⟩, h⟩ := run_bind_eq_ok h
    obtain ⟨followed, _, ⟨⟩, h⟩ := run_bind_eq_ok h
    split at h
    · nomatch h
    · obtain ⟨_, _, -, h⟩ := run_bind_eq_ok h
      cases hnode : document.node? slot with
      | none =>
        rw [hnode] at h
        nomatch h
      | some node =>
        rw [hnode] at h
        cases h
        exact .anchor hnode
  case h_2 hself =>
    cases h
    exact .self hself

theorem tells_text : Tells Reader.text HoldsText := by
  refine ⟨fun {node document before after value} h => ?_⟩
  obtain ⟨target, between, hresolve, h⟩ := run_bind_eq_ok h
  have hstands := standsFor_of_resolve hresolve
  split at h
  case h_1 style tag text =>
    cases h
    exact ⟨style, tag, hstands⟩
  case h_2 => nomatch h

theorem tells_int64 : Tells Reader.int64 HoldsInt64 := by
  refine ⟨fun {node document before after value} h => ?_⟩
  obtain ⟨target, between, hresolve, h⟩ := run_bind_eq_ok h
  have hstands := standsFor_of_resolve hresolve
  split at h
  case h_1 style tag text =>
    cases hnumber : (if mayBeInteger style tag then Integer.ofText? text.toList else none) with
    | none =>
      rw [hnumber] at h
      nomatch h
    | some number =>
      rw [hnumber] at h
      rw [Option.ite_none_right_eq_some] at hnumber
      dsimp only at h
      split at h
      case isTrue hfits =>
        cases h
        rw [← Decimal.toInt_ofInt_of_fitsInt64 hfits] at hnumber
        exact ⟨style, tag, text, hstands, hnumber⟩
      case isFalse => nomatch h
  case h_2 => nomatch h

theorem forall₂_of_mapM {ι : Type} {step : ι → Reading α} {holds : α → ι → Prop}
    (hstep : ∀ {item : ι} {before after : Nat} {value : α},
      (step item document).run before = .ok (value, after) → holds value item)
    {items : List ι} {values : List α}
    (h : (items.mapM step document).run before = .ok (values, after)) :
    List.Forall₂ holds values items := by
  induction items generalizing before values with
  | nil =>
    cases h
    exact .nil
  | cons item items ih =>
    rw [List.mapM_cons] at h
    obtain ⟨value, between, hvalue, h⟩ := run_bind_eq_ok h
    obtain ⟨rest, between, hrest, h⟩ := run_bind_eq_ok h
    cases h
    exact .cons (hstep hvalue) (ih hrest)

theorem tells_entries (expected : String) {read : Reader α} {holds : Document → Node → α → Prop}
    (hread : Tells read holds) : Tells (entries expected read) (HoldsPairs holds) := by
  refine ⟨fun {node document before after values} h => ?_⟩
  obtain ⟨nodes, between, hpairs, h⟩ := run_bind_eq_ok h
  obtain ⟨target, found, hresolve, hpairs⟩ := run_bind_eq_ok hpairs
  have hstands := standsFor_of_resolve hresolve
  split at hpairs
  case h_1 tag pairs =>
    cases hpairs
    refine .inl ⟨tag, _, hstands, forall₂_of_mapM ?_ h⟩
    rintro ⟨key, value⟩ before after ⟨name, x⟩ hpair
    obtain ⟨_, _, hname, hpair⟩ := run_bind_eq_ok hpair
    obtain ⟨_, _, hvalue, ⟨⟩⟩ := run_bind_eq_ok hpair
    exact ⟨tells_text.holds_of_read hname, hread.holds_of_read hvalue⟩
  case h_2 =>
    split at hpairs
    case isTrue hblank =>
      cases hpairs
      cases h
      exact .inr ⟨target, hstands, hblank, rfl⟩
    case isFalse => nomatch hpairs

end Reader

/-- A text that was decoded is a document of which the root holds the value. -/
theorem exists_holds_of_decode {α : Type} {read : Reader α} {holds : Document → Node → α → Prop}
    {text : String} {value : α} (htells : Tells read holds) (h : decode read text = .ok value) :
    ∃ document, Document.ofText text = .ok document ∧ holds document document.root value := by
  unfold decode at h
  split at h
  case h_1 => nomatch h
  case h_2 document hdocument =>
    obtain ⟨found, hread, ⟨⟩⟩ := bind_eq_ok.mp h
    exact ⟨document, hdocument, htells.holds_of_read hread⟩

/-- Mapping what is read maps what is decoded. -/
theorem decode_map {α β : Type} (f : α → β) (read : Reader α) (text : String) :
    decode (f <$> read) text = (decode read text).map f := by
  unfold decode
  cases Document.ofText text with
  | error fault => rfl
  | ok document =>
    have hread : ((f <$> read) document.root document).run 0
        = (read document.root document).run 0 >>= fun found => .ok (f found.1, found.2) := rfl
    dsimp only
    rw [hread]
    cases (read document.root document).run 0 <;> rfl

end ClusterCapacity.Yaml
