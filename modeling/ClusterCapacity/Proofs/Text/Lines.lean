import ClusterCapacity.Text.Layout
import Mathlib.Data.List.Basic
import Mathlib.Data.String.Basic

/-!
# Reading a layout back

Lines that hold no line break are told from their joined text (`joinLines_injective`), and cells
that hold no space from the line that they fill (`cells_injective`).  In both cases what comes first
is read up to the first character that it cannot hold (`append_inj_of_not_mem`), so it does not
matter that a cell may be longer than its column is wide.
-/

namespace ClusterCapacity.Text

/-! ### Characters of a layout -/

theorem not_mem_append {c : Char} {left right : String} :
    c ∉ (left ++ right).toList ↔ c ∉ left.toList ∧ c ∉ right.toList := by
  rw [String.toList_append, List.mem_append, not_or]

theorem toList_spaces (count : Nat) : (spaces count).toList = List.replicate count ' ' :=
  String.toList_ofList

theorem not_mem_spaces {c : Char} (h : c ≠ ' ') (count : Nat) : c ∉ (spaces count).toList := by
  rw [toList_spaces]
  exact fun hmem => h (List.eq_of_mem_replicate hmem)

theorem not_mem_padRight {c : Char} (h : c ≠ ' ') (width : Nat) {text : String}
    (htext : c ∉ text.toList) : c ∉ (padRight width text).toList :=
  not_mem_append.mpr ⟨htext, not_mem_spaces h _⟩

/-! ### Reading up to a separator -/

/-- Two lists are the same up to the first element without a property, and after it. -/
theorem append_cons_inj {α : Type} {p : α → Prop} {left left' right right' : List α} {x x' : α}
    (hleft : ∀ y ∈ left, p y) (hleft' : ∀ y ∈ left', p y) (hx : ¬ p x) (hx' : ¬ p x')
    (h : left ++ x :: right = left' ++ x' :: right') : left = left' ∧ x = x' ∧ right = right' := by
  induction left generalizing left' with
  | nil =>
    cases left' with
    | nil => simpa using h
    | cons y left' =>
      obtain ⟨rfl, -⟩ := List.cons.inj h
      exact absurd (hleft' x List.mem_cons_self) hx
  | cons y left ih =>
    cases left' with
    | nil =>
      obtain ⟨rfl, -⟩ := List.cons.inj h
      exact absurd (hleft y List.mem_cons_self) hx'
    | cons y' left' =>
      obtain ⟨rfl, hrest⟩ := List.cons.inj h
      obtain ⟨rfl, hright⟩ := ih (List.forall_mem_cons.mp hleft).2
        (List.forall_mem_cons.mp hleft').2 hrest
      exact ⟨rfl, hright⟩

/-- Two texts are the same up to the first separator, and after it. -/
theorem append_inj_of_not_mem {separator left left' right right' : String} {c : Char}
    (hseparator : separator.toList = [c]) (hleft : c ∉ left.toList) (hleft' : c ∉ left'.toList)
    (h : left ++ (separator ++ right) = left' ++ (separator ++ right')) :
    left = left' ∧ right = right' := by
  have hlist := congrArg String.toList h
  simp only [String.toList_append, hseparator, List.singleton_append] at hlist
  obtain ⟨heq, -, hrest⟩ := append_cons_inj (fun y hy => ne_of_mem_of_not_mem hy hleft)
    (fun y hy => ne_of_mem_of_not_mem hy hleft') (fun hne => hne rfl) (fun hne => hne rfl) hlist
  exact ⟨String.toList_inj.mp heq, String.toList_inj.mp hrest⟩

/-- Two texts are the same after the last separator, and up to it. -/
theorem append_inj_of_not_mem_right {separator left left' right right' : String} {c : Char}
    (hseparator : separator.toList = [c]) (hright : c ∉ right.toList)
    (hright' : c ∉ right'.toList)
    (h : left ++ (separator ++ right) = left' ++ (separator ++ right')) :
    left = left' ∧ right = right' := by
  have hlist := congrArg (fun text => text.toList.reverse) h
  simp only [String.toList_append, hseparator, List.reverse_append, List.singleton_append,
    List.reverse_cons, List.append_assoc] at hlist
  obtain ⟨heq, -, hrest⟩ := append_cons_inj
    (fun y hy => ne_of_mem_of_not_mem (List.mem_reverse.mp hy) hright)
    (fun y hy => ne_of_mem_of_not_mem (List.mem_reverse.mp hy) hright') (fun hne => hne rfl)
    (fun hne => hne rfl) hlist
  exact ⟨String.toList_inj.mp (List.reverse_injective hrest),
    String.toList_inj.mp (List.reverse_injective heq)⟩

/-! ### Lines -/

/-- The text of some lines, each ended by a line break. -/
def joinLines (lines : List String) : String := String.join (lines.map (fun line => line ++ "\n"))

theorem joinLines_nil : joinLines [] = "" := rfl

theorem joinLines_cons (line : String) (lines : List String) :
    joinLines (line :: lines) = line ++ ("\n" ++ joinLines lines) := by
  rw [joinLines, List.map_cons, String.join_cons, joinLines, String.append_assoc]

theorem joinLines_append (lines others : List String) :
    joinLines (lines ++ others) = joinLines lines ++ joinLines others := by
  rw [joinLines, List.map_append, String.join_append, joinLines, joinLines]

theorem joinLines_flatMap {α : Type} (lines : α → List String) (values : List α) :
    joinLines (values.flatMap lines)
      = String.join (values.map (fun value => joinLines (lines value))) := by
  induction values with
  | nil => rfl
  | cons value rest ih =>
    rw [List.flatMap_cons, joinLines_append, ih, List.map_cons, String.join_cons]

/-- Lines without line breaks are told from their text. -/
theorem joinLines_injective {lines lines' : List String}
    (hlines : ∀ line ∈ lines, '\n' ∉ line.toList) (hlines' : ∀ line ∈ lines', '\n' ∉ line.toList)
    (h : joinLines lines = joinLines lines') : lines = lines' := by
  have hnonempty (line : String) (lines : List String) : joinLines (line :: lines) ≠ "" := by
    intro hempty
    have hlist := congrArg String.toList hempty
    rw [joinLines_cons, String.toList_append, String.toList_append] at hlist
    simp at hlist
  induction lines generalizing lines' with
  | nil =>
    cases lines' with
    | nil => rfl
    | cons line' rest' => exact absurd h.symm (hnonempty line' rest')
  | cons line rest ih =>
    cases lines' with
    | nil => exact absurd h (hnonempty line rest)
    | cons line' rest' =>
      obtain ⟨hline, hrest⟩ := List.forall_mem_cons.mp hlines
      obtain ⟨hline', hrest'⟩ := List.forall_mem_cons.mp hlines'
      rw [joinLines_cons, joinLines_cons] at h
      obtain ⟨rfl, hjoined⟩ := append_inj_of_not_mem (c := '\n') rfl hline hline' h
      rw [ih hrest hrest' hjoined]

/-! ### Cells -/

theorem spaces_append_space (count : Nat) : spaces count ++ " " = " " ++ spaces count := by
  apply String.toList_inj.mp
  rw [String.toList_append, String.toList_append, toList_spaces]
  exact (List.replicate_succ' (n := count) (a := ' ')).symm

/-- A padded cell is followed by a space even if it is wider than its column. -/
theorem padRight_append_space (width : Nat) (text rest : String) :
    padRight width text ++ (" " ++ rest)
      = text ++ (" " ++ (spaces (width - text.length) ++ rest)) := by
  calc padRight width text ++ (" " ++ rest)
      = text ++ ((spaces (width - text.length) ++ " ") ++ rest) := by
        simp only [padRight, String.append_assoc]
    _ = text ++ (" " ++ (spaces (width - text.length) ++ rest)) := by
        rw [spaces_append_space, String.append_assoc]

/-- A padded cell without spaces is read up to the first space, wherever the next cell begins. -/
theorem padRight_append_inj {width : Nat} {text text' rest rest' : String}
    (htext : ' ' ∉ text.toList) (htext' : ' ' ∉ text'.toList)
    (h : padRight width text ++ (" " ++ rest) = padRight width text' ++ (" " ++ rest')) :
    text = text' ∧ rest = rest' := by
  rw [padRight_append_space, padRight_append_space] at h
  obtain ⟨rfl, hrest⟩ := append_inj_of_not_mem (c := ' ') rfl htext htext' h
  exact ⟨rfl, (String.append_right_inj _).mp hrest⟩

/-- Padded cells, each after a space. -/
def cells (width : Nat) (texts : List String) : String :=
  String.join (texts.map (fun text => " " ++ padRight width text))

theorem cells_cons (width : Nat) (text : String) (texts : List String) :
    cells width (text :: texts) = " " ++ (padRight width text ++ cells width texts) := by
  rw [cells, List.map_cons, String.join_cons, cells, String.append_assoc]

theorem not_mem_cells {c : Char} (h : c ≠ ' ') (width : Nat) {texts : List String}
    (htexts : ∀ text ∈ texts, c ∉ text.toList) : c ∉ (cells width texts).toList := by
  induction texts with
  | nil => exact List.not_mem_nil
  | cons text texts ih =>
    obtain ⟨htext, hothers⟩ := List.forall_mem_cons.mp htexts
    rw [cells_cons, not_mem_append, not_mem_append]
    exact ⟨by simpa using h, not_mem_padRight h width htext, ih hothers⟩

/-- Whatever cells there are, a space comes before them or after them. -/
theorem exists_cells_append (width : Nat) (texts : List String) :
    ∃ rest, cells width texts ++ " " = " " ++ rest := by
  cases texts with
  | nil => exact ⟨"", rfl⟩
  | cons text texts =>
    exact ⟨padRight width text ++ (cells width texts ++ " "), by
      rw [cells_cons, String.append_assoc, String.append_assoc]⟩

/-- Cells without spaces are told from the line that they are in. -/
theorem cells_injective {width : Nat} {texts texts' : List String}
    (htexts : ∀ text ∈ texts, ' ' ∉ text.toList) (htexts' : ∀ text ∈ texts', ' ' ∉ text.toList)
    (h : cells width texts = cells width texts') : texts = texts' := by
  -- a space after the last cell makes it look like the others
  replace h := congrArg (fun line => line ++ " ") h
  have hlength (text : String) (texts : List String) :
      cells width (text :: texts) ++ " " ≠ cells width [] ++ " " := by
    intro heq
    have hlength := congrArg String.length heq
    rw [cells_cons] at hlength
    simp only [String.length_append] at hlength
    simp [cells] at hlength
  induction texts generalizing texts' with
  | nil =>
    cases texts' with
    | nil => rfl
    | cons text' texts' => exact absurd h.symm (hlength text' texts')
  | cons text texts ih =>
    cases texts' with
    | nil => exact absurd h (hlength text texts)
    | cons text' texts' =>
      obtain ⟨htext, hothers⟩ := List.forall_mem_cons.mp htexts
      obtain ⟨htext', hothers'⟩ := List.forall_mem_cons.mp htexts'
      obtain ⟨rest, hrest⟩ := exists_cells_append width texts
      obtain ⟨rest', hrest'⟩ := exists_cells_append width texts'
      have hsame :
          padRight width text ++ (" " ++ rest) = padRight width text' ++ (" " ++ rest') := by
        simp only [cells_cons, String.append_assoc, String.append_right_inj] at h
        rwa [hrest, hrest'] at h
      obtain ⟨rfl, rfl⟩ := padRight_append_inj htext htext' hsame
      rw [ih hothers hothers' (hrest.trans hrest'.symm)]

end ClusterCapacity.Text
