import ClusterCapacity.Proofs.Json.Grammar
import ClusterCapacity.Proofs.Json.Tokens
import Mathlib.Data.List.Chain

/-!
# Values are recognised

The other direction of the grammar: a text that spells a value is scanned as the tokens of the value
(`spelling_iff`), because no two numbers stand side by side in it, and a skip passes over any value
(`skip_value`).  A skip goes on after the first value that it finds, so a value is told from
what follows it (`IsValue.append_inj`), and an object is made of one list of members only
(`objectTokens_inj`).
-/

namespace ClusterCapacity.Json

/-! ### Texts of tokens -/

/-- Whether no two numbers stand side by side. -/
def Apart (tokens : List Token) : Prop :=
  tokens.IsChain (fun token next => token.IsNumber → ¬ next.IsNumber)

section

variable {token : Token} {tokens rest : List Token} {written text : List Char}

/-- A blank does not go on with a number. -/
theorem endsNumber_of_isBlank {c : Char} (h : Token.isBlank c = true) (rest : List Char) :
    EndsNumber (c :: rest) := by
  rintro other hother
  obtain rfl : c = other := by simpa using hother
  simp only [Token.isBlank, Bool.or_eq_true, decide_eq_true_eq] at h
  rcases h with ((rfl | rfl) | rfl) | rfl <;> decide

/-- Only a number goes on with a number. -/
theorem endsNumber_written (h : TokenWritten token written) (htoken : ¬ token.IsNumber)
    (rest : List Char) : EndsNumber (written ++ rest) := by
  cases h with
  | openList | closeList | openObject | closeObject | comma | colon =>
    rintro c ⟨⟩
    decide
  | word word =>
    cases word <;>
      · rintro c ⟨⟩
        decide
  | number => exact absurd trivial htoken
  | string =>
    rintro c ⟨⟩
    decide

theorem endsNumber_spelling (h : Spelling tokens text)
    (htokens : ∀ token ∈ tokens.head?, ¬ token.IsNumber) : EndsNumber text := by
  cases h with
  | nil hblanks =>
    cases text with
    | nil => exact endsNumber_nil
    | cons blank blanks => exact endsNumber_of_isBlank (hblanks blank List.mem_cons_self) blanks
  | @cons _ _ blanks _ _ hblanks htoken =>
    cases blanks with
    | nil => exact endsNumber_written htoken (htokens _ rfl) _
    | cons blank blanks => exact endsNumber_of_isBlank (hblanks blank List.mem_cons_self) _

theorem scan_blanks {blanks : List Char} (h : ∀ c ∈ blanks, Token.isBlank c = true)
    (rest : List Char) : Token.scan (blanks ++ rest) = Token.scan rest := by
  rw [Token.scan, List.dropWhile_append_of_pos h, ← Token.scan]

/-- A text that spells tokens is scanned as these, as long as no number runs into another. -/
theorem scan_of_spelling (h : Spelling tokens text) (hapart : Apart tokens) :
    Token.scan text = tokens := by
  induction h with
  | @nil blanks hblanks =>
    rw [← List.append_nil blanks, scan_blanks hblanks, Token.scan_nil]
  | cons hblanks htoken hrest ih =>
    obtain ⟨hnext, hapart⟩ := List.isChain_cons.mp hapart
    rw [scan_blanks hblanks, Token.scan_append htoken, ih hapart]
    exact fun hnumber => endsNumber_spelling hrest fun next hmem => hnext next hmem hnumber

/-! ### Numbers in a value stand apart -/

theorem apart_cons (htoken : ¬ token.IsNumber) (h : Apart tokens) : Apart (token :: tokens) :=
  List.isChain_cons.mpr ⟨fun _ _ hnumber => absurd hnumber htoken, h⟩

theorem apart_append (h : Apart tokens) (hrest : Apart rest)
    (hhead : ∀ token ∈ rest.head?, ¬ token.IsNumber) : Apart (tokens ++ rest) :=
  List.isChain_append.mpr ⟨h, hrest, fun _ _ next hnext _ => hhead next hnext⟩

theorem apart_separator (first : Bool) (h : Apart tokens) :
    Apart ((if first then [] else [.comma]) ++ tokens) := by
  cases first with
  | true => exact h
  | false => exact apart_cons id h

theorem apart_itemsFrom {items : List (List Token)} (h : ∀ item ∈ items, Apart item)
    (first : Bool) : Apart (itemsFrom first items) := by
  induction items generalizing first with
  | nil => exact .singleton _
  | cons item items ih =>
    obtain ⟨hitem, hitems⟩ := List.forall_mem_cons.mp h
    refine apart_separator first (apart_append hitem (ih hitems false) ?_)
    cases items <;> rintro token ⟨⟩ <;> exact id

theorem apart_membersFrom {members : List Member} (h : ∀ member ∈ members, Apart member.value)
    (first : Bool) : Apart (membersFrom first members) := by
  induction members generalizing first with
  | nil => exact .singleton _
  | cons member members ih =>
    obtain ⟨hmember, hmembers⟩ := List.forall_mem_cons.mp h
    refine apart_separator first (apart_cons id (apart_cons id
      (apart_append hmember (ih hmembers false) ?_)))
    cases members <;> rintro token ⟨⟩ <;> exact id

theorem IsValue.apart (h : IsValue tokens) : Apart tokens := by
  induction h with
  | scalar => exact .singleton _
  | list _ ih => exact apart_cons id (apart_itemsFrom ih true)
  | object _ _ ih => exact apart_cons id (apart_membersFrom ih true)

-- what a concrete text is scanned as can be decided
deriving instance DecidableEq for Token

/-- A text spells a value just when it is scanned as the value. -/
theorem spelling_iff (h : IsValue tokens) : Spelling tokens text ↔ Token.scan text = tokens := by
  constructor
  · intro hspelling
    exact scan_of_spelling hspelling h.apart
  · rintro rfl
    exact Token.spelling_scan h.flawless

end

/-! ### Skipping a value -/

namespace Skip

variable {token : Token} {tokens value rest : List Token} {stack : List Bracket}

/-- Where nothing is open any more, a skip is done. -/
theorem run_separator_nil (rest : List Token) : run .separator [] rest = .ok rest := by
  cases rest <;> rfl

theorem run_separator_eq (stack : List Bracket) (rest : List Token) :
    (if stack.isEmpty then .ok rest else run .separator stack rest)
      = run .separator stack rest := by
  cases stack with
  | nil => exact (run_separator_nil rest).symm
  | cons bracket stack => rfl

theorem run_scalar (h : checkScalar token = .ok ()) (stack : List Bracket) (rest : List Token) :
    run .value stack (token :: rest) = run .separator stack rest := by
  have hpassed : (do
      checkScalar token
      if stack.isEmpty then .ok rest else run .separator stack rest)
      = run .separator stack rest := by
    rw [h]
    exact run_separator_eq stack rest
  cases token with
  | word | number | string | junk | comma | colon | closeList | closeObject => exact hpassed
  | openList | openObject => nomatch h

/-- A list that has just been opened goes on with a value, or is closed. -/
theorem run_first_item (h : token ≠ .closeList) (stack : List Bracket) (rest : List Token) :
    run .first (.list :: stack) (token :: rest) = run .value (.list :: stack) (token :: rest) := by
  cases token with
  | closeList => exact absurd rfl h
  | _ => rfl

/-- Whether a skip passes over tokens, whatever brackets are open and whatever follows. -/
def PassesOver (value : List Token) : Prop :=
  ∀ stack rest, run .value stack (value ++ rest) = run .separator stack rest

theorem run_closeList (stack : List Bracket) (rest : List Token) :
    run .separator (.list :: stack) (.closeList :: rest) = run .separator stack rest :=
  run_separator_eq stack rest

theorem run_closeObject (stack : List Bracket) (rest : List Token) :
    run .separator (.object :: stack) (.closeObject :: rest) = run .separator stack rest :=
  run_separator_eq stack rest

theorem run_items {items : List (List Token)} (h : ∀ item ∈ items, PassesOver item)
    (stack : List Bracket) (rest : List Token) :
    run .separator (.list :: stack) (itemsFrom false items ++ rest)
      = run .separator stack rest := by
  induction items with
  | nil => exact run_closeList stack rest
  | cons item items ih =>
    obtain ⟨hitem, hitems⟩ := List.forall_mem_cons.mp h
    show run .value (.list :: stack) (item ++ itemsFrom false items ++ rest) = _
    rw [List.append_assoc, hitem, ih hitems]

theorem run_name {name : Quoted} (h : name.check = .ok ()) (stack : List Bracket)
    (rest : List Token) :
    run .name (.object :: stack) (.string name :: rest) = run .colon (.object :: stack) rest := by
  show (do name.check; run .colon (.object :: stack) rest) = _
  rw [h]
  rfl

theorem run_members {members : List Member}
    (hnames : ∀ member ∈ members, member.name.check = .ok ())
    (h : ∀ member ∈ members, PassesOver member.value) (stack : List Bracket) (rest : List Token) :
    run .separator (.object :: stack) (membersFrom false members ++ rest)
      = run .separator stack rest := by
  induction members with
  | nil => exact run_closeObject stack rest
  | cons member members ih =>
    obtain ⟨hname, hnames⟩ := List.forall_mem_cons.mp hnames
    obtain ⟨hmember, hmembers⟩ := List.forall_mem_cons.mp h
    show run .name (.object :: stack) (.string member.name :: .colon ::
      (member.value ++ membersFrom false members ++ rest)) = _
    rw [run_name hname]
    show run .value (.object :: stack) (member.value ++ membersFrom false members ++ rest) = _
    rw [List.append_assoc, hmember, ih hnames hmembers]

/-- A value begins with a token that closes no list. -/
theorem exists_cons_of_isValue (h : IsValue value) :
    ∃ token others, value = token :: others ∧ token ≠ .closeList := by
  cases h with
  | @scalar token h =>
    refine ⟨token, [], rfl, ?_⟩
    rintro rfl
    nomatch h
  | list => exact ⟨.openList, _, rfl, nofun⟩
  | object => exact ⟨.openObject, _, rfl, nofun⟩

theorem passesOver_listTokens {items : List (List Token)} (h : ∀ item ∈ items, IsValue item)
    (hpasses : ∀ item ∈ items, PassesOver item) : PassesOver (listTokens items) := by
  intro stack rest
  show run .first (.list :: stack) (itemsFrom true items ++ rest) = _
  cases items with
  | nil => exact run_closeList stack rest
  | cons item items =>
    obtain ⟨hitem, hitems⟩ := List.forall_mem_cons.mp hpasses
    obtain ⟨token, others, heq, hclose⟩ := exists_cons_of_isValue (h item List.mem_cons_self)
    have hfirst : run .first (.list :: stack) (item ++ (itemsFrom false items ++ rest))
        = run .value (.list :: stack) (item ++ (itemsFrom false items ++ rest)) := by
      rw [heq, List.cons_append, run_first_item hclose]
    show run .first (.list :: stack) (item ++ itemsFrom false items ++ rest) = _
    rw [List.append_assoc, hfirst, hitem, run_items hitems]

theorem passesOver_objectTokens {members : List Member}
    (hnames : ∀ member ∈ members, member.name.check = .ok ())
    (h : ∀ member ∈ members, PassesOver member.value) : PassesOver (objectTokens members) := by
  intro stack rest
  show run .first (.object :: stack) (membersFrom true members ++ rest) = _
  -- the first member has no comma in front, and is passed over as the one after a comma
  cases members with
  | nil => exact run_closeObject stack rest
  | cons member members => exact run_members hnames h stack rest

theorem passesOver_of_isValue (h : IsValue value) : PassesOver value := by
  induction h with
  | scalar h => exact run_scalar h
  | list h ih => exact passesOver_listTokens h ih
  | object hnames _ ih => exact passesOver_objectTokens hnames ih

end Skip

section

variable {value other rest last : List Token}

/-- A skip passes over a value and nothing else. -/
theorem skip_value (h : IsValue value) (rest : List Token) : skip (value ++ rest) = .ok rest :=
  (Skip.passesOver_of_isValue h [] rest).trans (Skip.run_separator_nil rest)

/-! ### One reading of a value -/

/-- A value does not go on in another one. -/
theorem IsValue.append_inj (h : IsValue value) (hother : IsValue other)
    (heq : value ++ rest = other ++ last) : value = other ∧ rest = last := by
  have hskip := skip_value h rest
  rw [heq, skip_value hother] at hskip
  cases hskip
  exact ⟨List.append_cancel_right heq, rfl⟩

theorem membersFrom_inj {members others : List Member}
    (h : ∀ member ∈ members, IsValue member.value)
    (hothers : ∀ member ∈ others, IsValue member.value) {first : Bool}
    (heq : membersFrom first members = membersFrom first others) :
    members = others := by
  induction members generalizing others first with
  | nil =>
    cases others with
    | nil => rfl
    | cons => cases first <;> nomatch heq
  | cons member members ih =>
    cases others with
    | nil => cases first <;> nomatch heq
    | cons other others =>
      obtain ⟨name, value⟩ := member
      obtain ⟨otherName, otherValue⟩ := other
      obtain ⟨hvalue, hvalues⟩ := List.forall_mem_cons.mp h
      obtain ⟨hother, hrests⟩ := List.forall_mem_cons.mp hothers
      have htokens := List.append_cancel_left heq
      obtain ⟨rfl, hrest⟩ : name = otherName ∧
          value ++ membersFrom false members = otherValue ++ membersFrom false others := by
        simpa [Member.tokens] using htokens
      obtain ⟨rfl, hmembers⟩ := hvalue.append_inj hother hrest
      rw [ih hvalues hrests hmembers]

/-- An object is made of one list of members only. -/
theorem objectTokens_inj {members others : List Member}
    (h : ∀ member ∈ members, IsValue member.value)
    (hothers : ∀ member ∈ others, IsValue member.value)
    (heq : objectTokens members = objectTokens others) : members = others :=
  membersFrom_inj h hothers (List.cons.inj heq).2

end

end ClusterCapacity.Json
