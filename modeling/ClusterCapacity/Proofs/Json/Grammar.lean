import ClusterCapacity.Json.Skip
import ClusterCapacity.Proofs.Json.Lexical

/-!
# JSON over tokens

What a value is as a list of tokens (`IsValue`): a scalar without a fault, or items or members
between brackets with a comma between any two.  The stack of brackets that a skip keeps says what is
still to come (`Skip.Closes`), and so a skip that succeeds has passed over just one value
(`exists_isValue_of_skip`).
-/

namespace ClusterCapacity.Json

/-! ### Lists and objects -/

/-- The tokens of items, with a comma in front unless they are the first ones, and of the closing
bracket. -/
def itemsFrom (first : Bool) : List (List Token) → List Token
  | [] => [.closeList]
  | item :: rest => (if first then [] else [.comma]) ++ (item ++ itemsFrom false rest)

/-- The tokens of a list of items. -/
def listTokens (items : List (List Token)) : List Token := .openList :: itemsFrom true items

/-- A member of an object: its name as it is written, and the tokens of its value. -/
structure Member where
  name : Quoted
  value : List Token

/-- The tokens of a member. -/
def Member.tokens (member : Member) : List Token := .string member.name :: .colon :: member.value

/-- The tokens of members, with a comma in front unless they are the first ones, and of the closing
brace. -/
def membersFrom (first : Bool) : List Member → List Token
  | [] => [.closeObject]
  | member :: rest => (if first then [] else [.comma]) ++ (member.tokens ++ membersFrom false rest)

/-- The tokens of an object of members. -/
def objectTokens (members : List Member) : List Token := .openObject :: membersFrom true members

/-! ### Values -/

/-- Whether tokens are a value. -/
inductive IsValue : List Token → Prop where
  | scalar {token : Token} (h : Skip.checkScalar token = .ok ()) : IsValue [token]
  | list {items : List (List Token)} (h : ∀ item ∈ items, IsValue item) : IsValue (listTokens items)
  | object {members : List Member} (hnames : ∀ member ∈ members, member.name.check = .ok ())
    (h : ∀ member ∈ members, IsValue member.value) : IsValue (objectTokens members)

/-! ### Tokens without a fault -/

theorem flawless_append {tokens rest : List Token} :
    Flawless (tokens ++ rest) ↔ Flawless tokens ∧ Flawless rest := List.forall_mem_append

theorem flawless_cons {token : Token} {rest : List Token} :
    Flawless (token :: rest) ↔ token.Faultless ∧ Flawless rest := List.forall_mem_cons

theorem flawless_singleton {token : Token} (h : token.Faultless) : Flawless [token] :=
  flawless_cons.mpr ⟨h, nofun⟩

theorem flawless_separator (first : Bool) : Flawless (if first then [] else [.comma]) := by
  cases first with
  | true => nofun
  | false => exact flawless_singleton trivial

theorem flawless_itemsFrom {items : List (List Token)} (h : ∀ item ∈ items, Flawless item)
    (first : Bool) : Flawless (itemsFrom first items) := by
  induction items generalizing first with
  | nil => exact flawless_singleton trivial
  | cons item items ih =>
    obtain ⟨hitem, hitems⟩ := List.forall_mem_cons.mp h
    exact flawless_append.mpr
      ⟨flawless_separator first, flawless_append.mpr ⟨hitem, ih hitems false⟩⟩

theorem flawless_listTokens {items : List (List Token)} (h : ∀ item ∈ items, Flawless item) :
    Flawless (listTokens items) := flawless_cons.mpr ⟨trivial, flawless_itemsFrom h true⟩

theorem flawless_membersFrom {members : List Member}
    (h : ∀ member ∈ members, member.name.fault = none ∧ Flawless member.value) (first : Bool) :
    Flawless (membersFrom first members) := by
  induction members generalizing first with
  | nil => exact flawless_singleton trivial
  | cons member members ih =>
    obtain ⟨⟨hname, hvalue⟩, hmembers⟩ := List.forall_mem_cons.mp h
    have hmember : Flawless member.tokens :=
      flawless_cons.mpr ⟨hname, flawless_cons.mpr ⟨trivial, hvalue⟩⟩
    exact flawless_append.mpr
      ⟨flawless_separator first, flawless_append.mpr ⟨hmember, ih hmembers false⟩⟩

theorem flawless_objectTokens {members : List Member}
    (h : ∀ member ∈ members, member.name.fault = none ∧ Flawless member.value) :
    Flawless (objectTokens members) := flawless_cons.mpr ⟨trivial, flawless_membersFrom h true⟩

/-- No token of a value carries a fault. -/
theorem IsValue.flawless {tokens : List Token} (h : IsValue tokens) : Flawless tokens := by
  induction h with
  | @scalar token h =>
    apply flawless_singleton
    unfold Skip.checkScalar at h
    split at h
    case h_1 word => exact ⟨word, rfl⟩
    case h_3 numeral => exact ⟨numeral, rfl⟩
    case h_5 string => exact Quoted.fault_of_check h
    all_goals nomatch h
  | list _ ih => exact flawless_listTokens ih
  | object hnames _ ih =>
    exact flawless_objectTokens fun member hmember =>
      ⟨Quoted.fault_of_check (hnames member hmember), ih member hmember⟩

namespace Skip

/-! ### What a bracket demands -/

/-- Whether tokens close a bracket where a comma or the bracket's end is next, or, if `first`, an
item or member or the end. -/
def ClosesFrom (first : Bool) : Bracket → List Token → Prop
  | .list, tokens => ∃ items : List (List Token), (∀ item ∈ items, IsValue item) ∧
      tokens = itemsFrom first items
  | .object, tokens => ∃ members : List Member, (∀ member ∈ members, member.name.check = .ok ()) ∧
      (∀ member ∈ members, IsValue member.value) ∧ tokens = membersFrom first members

/-- Whether tokens close a bracket from a value on. -/
def ClosesValue (bracket : Bracket) (tokens : List Token) : Prop :=
  ∃ value rest, IsValue value ∧ ClosesFrom false bracket rest ∧ tokens = value ++ rest

/-- Whether tokens close a bracket from a colon on. -/
def ClosesColon (bracket : Bracket) (tokens : List Token) : Prop :=
  ∃ rest, ClosesValue bracket rest ∧ tokens = .colon :: rest

/-- Whether tokens close a bracket from the name of a member on. -/
def ClosesName (bracket : Bracket) (tokens : List Token) : Prop :=
  ∃ name rest, name.check = .ok () ∧ ClosesColon bracket rest ∧ tokens = .string name :: rest

/-- Whether tokens close a bracket inside which something is expected. -/
def ClosesOne : Expecting → Bracket → List Token → Prop
  | .value => ClosesValue
  | .first => ClosesFrom true
  | .separator => ClosesFrom false
  | .name => ClosesName
  | .colon => ClosesColon

/-- Whether tokens close all brackets, a comma or an end being next in each. -/
def ClosesAll : List Bracket → List Token → Prop
  | [], tokens => tokens = []
  | bracket :: stack, tokens =>
    ∃ inner outer, ClosesFrom false bracket inner ∧ ClosesAll stack outer ∧ tokens = inner ++ outer

/-- Whether tokens are what a skip has to pass over. -/
def Closes (expecting : Expecting) : List Bracket → List Token → Prop
  | [], tokens => if expecting = .value then IsValue tokens else tokens = []
  | bracket :: stack, tokens =>
    ∃ inner outer, ClosesOne expecting bracket inner ∧ ClosesAll stack outer ∧
      tokens = inner ++ outer

variable {bracket : Bracket} {stack : List Bracket} {token : Token}
  {tokens taken inner outer value rest : List Token}

theorem closesAll_of_separator (h : Closes .separator stack tokens) : ClosesAll stack tokens := by
  cases stack with
  | nil => exact h
  | cons bracket stack => exact h

/-- A value and the ends of the brackets around it. -/
theorem closes_value (hvalue : IsValue value) (houter : ClosesAll stack outer) :
    Closes .value stack (value ++ outer) := by
  cases stack with
  | nil =>
    obtain rfl : outer = [] := houter
    rw [List.append_nil]
    exact hvalue
  | cons bracket stack =>
    obtain ⟨inner, outer, hinner, houter, rfl⟩ := houter
    exact ⟨value ++ inner, outer, ⟨value, inner, hvalue, hinner, rfl⟩, houter,
      (List.append_assoc ..).symm⟩

theorem closesFrom_end (first : Bool) (h : bracket.closes token = true) :
    ClosesFrom first bracket [token] := by
  cases bracket <;> cases token <;> first
    | exact ⟨[], nofun, rfl⟩
    | exact ⟨[], nofun, nofun, rfl⟩
    | nomatch h

/-- A value in a list is the first item, or one after a comma. -/
theorem closesFrom_item (first : Bool) (h : ClosesValue .list inner) :
    ClosesFrom first .list ((if first then [] else [.comma]) ++ inner) := by
  obtain ⟨value, rest, hvalue, ⟨items, hitems, rfl⟩, rfl⟩ := h
  exact ⟨value :: items, List.forall_mem_cons.mpr ⟨hvalue, hitems⟩, rfl⟩

/-- A name, a colon and a value in an object are the first member, or one after a comma. -/
theorem closesFrom_member (first : Bool) (h : ClosesName .object inner) :
    ClosesFrom first .object ((if first then [] else [.comma]) ++ inner) := by
  obtain ⟨name, -, hname, ⟨-, ⟨value, rest, hvalue, ⟨members, hnames, hvalues, rfl⟩, rfl⟩, rfl⟩,
    rfl⟩ := h
  exact ⟨⟨name, value⟩ :: members, List.forall_mem_cons.mpr ⟨hname, hnames⟩,
    List.forall_mem_cons.mpr ⟨hvalue, hvalues⟩, rfl⟩

/-! ### Steps -/

/-- Whether what stands in front of `rest` is what a skip has to pass over. -/
def Passes (expecting : Expecting) (stack : List Bracket) (tokens rest : List Token) : Prop :=
  ∃ taken, tokens = taken ++ rest ∧ Closes expecting stack taken

theorem passes_nil (tokens : List Token) : Passes .separator [] tokens tokens := ⟨[], rfl, rfl⟩

theorem passes_openList (h : Passes .first (.list :: stack) tokens rest) :
    Passes .value stack (.openList :: tokens) rest := by
  obtain ⟨-, rfl, inner, outer, ⟨items, hitems, rfl⟩, houter, rfl⟩ := h
  exact ⟨listTokens items ++ outer, rfl, closes_value (.list hitems) houter⟩

theorem passes_openObject (h : Passes .first (.object :: stack) tokens rest) :
    Passes .value stack (.openObject :: tokens) rest := by
  obtain ⟨-, rfl, inner, outer, ⟨members, hnames, hvalues, rfl⟩, houter, rfl⟩ := h
  exact ⟨objectTokens members ++ outer, rfl, closes_value (.object hnames hvalues) houter⟩

theorem passes_scalar (htoken : checkScalar token = .ok ())
    (h : Passes .separator stack tokens rest) : Passes .value stack (token :: tokens) rest := by
  obtain ⟨outer, rfl, houter⟩ := h
  exact ⟨token :: outer, rfl, closes_value (.scalar htoken) (closesAll_of_separator houter)⟩

theorem passes_end (htoken : bracket.closes token = true) {expecting : Expecting}
    (hexpecting : expecting = .first ∨ expecting = .separator)
    (h : Passes .separator stack tokens rest) :
    Passes expecting (bracket :: stack) (token :: tokens) rest := by
  obtain ⟨outer, rfl, houter⟩ := h
  refine ⟨token :: outer, rfl, [token], outer, ?_, closesAll_of_separator houter, rfl⟩
  rcases hexpecting with rfl | rfl
  · exact closesFrom_end true htoken
  · exact closesFrom_end false htoken

theorem passes_item (h : Passes .value (.list :: stack) tokens rest) :
    Passes .first (.list :: stack) tokens rest := by
  obtain ⟨-, rfl, inner, outer, hinner, houter, rfl⟩ := h
  exact ⟨_, rfl, inner, outer, closesFrom_item true hinner, houter, rfl⟩

theorem passes_nextItem (h : Passes .value (.list :: stack) tokens rest) :
    Passes .separator (.list :: stack) (.comma :: tokens) rest := by
  obtain ⟨-, rfl, inner, outer, hinner, houter, rfl⟩ := h
  exact ⟨_, rfl, .comma :: inner, outer, closesFrom_item false hinner, houter, rfl⟩

theorem passes_member (h : Passes .name (.object :: stack) tokens rest) :
    Passes .first (.object :: stack) tokens rest := by
  obtain ⟨-, rfl, inner, outer, hinner, houter, rfl⟩ := h
  exact ⟨_, rfl, inner, outer, closesFrom_member true hinner, houter, rfl⟩

theorem passes_nextMember (h : Passes .name (.object :: stack) tokens rest) :
    Passes .separator (.object :: stack) (.comma :: tokens) rest := by
  obtain ⟨-, rfl, inner, outer, hinner, houter, rfl⟩ := h
  exact ⟨_, rfl, .comma :: inner, outer, closesFrom_member false hinner, houter, rfl⟩

theorem passes_name {name : Quoted} (hname : name.check = .ok ())
    (h : Passes .colon (bracket :: stack) tokens rest) :
    Passes .name (bracket :: stack) (.string name :: tokens) rest := by
  obtain ⟨-, rfl, inner, outer, hinner, houter, rfl⟩ := h
  exact ⟨_, rfl, .string name :: inner, outer, ⟨name, inner, hname, hinner, rfl⟩, houter, rfl⟩

theorem passes_colon (h : Passes .value (bracket :: stack) tokens rest) :
    Passes .colon (bracket :: stack) (.colon :: tokens) rest := by
  obtain ⟨-, rfl, inner, outer, hinner, houter, rfl⟩ := h
  exact ⟨_, rfl, .colon :: inner, outer, ⟨inner, hinner, rfl⟩, houter, rfl⟩

/-! ### Runs -/

/-- A skip that succeeds passes over what its brackets demand. -/
theorem passes_of_run {expecting : Expecting} {stack : List Bracket} {tokens rest : List Token}
    (h : run expecting stack tokens = .ok rest) : Passes expecting stack tokens rest := by
  fun_induction run expecting stack tokens with
  | case1 | case6 | case10 | case14 | case19 | case20 | case22 | case23 | case25 => nomatch h
  | case2 stack tokens ih => exact passes_openList (ih h)
  | case3 stack tokens ih => exact passes_openObject (ih h)
  | case4 stack token tokens _ _ ih =>
    obtain ⟨⟨⟩, htoken, hrun⟩ := bind_eq_ok.mp h
    refine passes_scalar htoken ?_
    split at hrun
    case isTrue hempty =>
      obtain rfl := List.isEmpty_iff.mp hempty
      cases hrun
      exact passes_nil _
    case isFalse => exact ih hrun
  | case5 expecting tokens hend _ _ hcons =>
    cases h
    have hexpecting : expecting ≠ .value := fun hvalue => by
      cases rest with
      | nil => exact hend hvalue rfl
      | cons token rest => exact hcons token rest hvalue rfl
    exact ⟨[], rfl, by simp only [Closes, hexpecting, if_false]⟩
  | case7 bracket stack token tokens hcloses hempty =>
    obtain rfl := List.isEmpty_iff.mp hempty
    cases h
    exact passes_end hcloses (.inl rfl) (passes_nil _)
  | case8 bracket stack token tokens hcloses _ ih => exact passes_end hcloses (.inl rfl) (ih h)
  | case9 stack tokens name _ ih =>
    obtain ⟨⟨⟩, hname, h⟩ := bind_eq_ok.mp h
    exact passes_member (passes_name hname (ih h))
  | case11 stack tokens _ ih => exact passes_item (passes_openList (ih h))
  | case12 stack tokens _ ih => exact passes_item (passes_openObject (ih h))
  | case13 stack tokens token _ _ _ ih =>
    obtain ⟨⟨⟩, htoken, h⟩ := bind_eq_ok.mp h
    exact passes_item (passes_scalar htoken (ih h))
  | case15 bracket stack token tokens hcloses hempty =>
    obtain rfl := List.isEmpty_iff.mp hempty
    cases h
    exact passes_end hcloses (.inr rfl) (passes_nil _)
  | case16 bracket stack token tokens hcloses _ ih => exact passes_end hcloses (.inr rfl) (ih h)
  | case17 stack tokens _ ih => exact passes_nextItem (ih h)
  | case18 stack tokens _ ih => exact passes_nextMember (ih h)
  | case21 stack name tokens hstack ih =>
    obtain ⟨⟨⟩, hname, h⟩ := bind_eq_ok.mp h
    obtain ⟨bracket, stack, rfl⟩ := List.exists_cons_of_ne_nil hstack
    exact passes_name hname (ih h)
  | case24 stack tokens hstack ih =>
    obtain ⟨bracket, stack, rfl⟩ := List.exists_cons_of_ne_nil hstack
    exact passes_colon (ih h)

end Skip

/-- A skip that succeeds passes over one value. -/
theorem exists_isValue_of_skip {tokens rest : List Token} (h : skip tokens = .ok rest) :
    ∃ value, tokens = value ++ rest ∧ IsValue value :=
  Skip.passes_of_run h

end ClusterCapacity.Json
