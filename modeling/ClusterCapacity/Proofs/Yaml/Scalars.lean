import ClusterCapacity.Json.Printer
import ClusterCapacity.Yaml.Scalar

/-!
# Scalars on one line

What the scans of plain and quoted scalars find where a line goes on after the scalar.  A plain
scalar that is one word ends where an item of a list or map does (`scanPlain_word`).  A text of
printable characters that was quoted for JSON is read as itself (`scanDouble_escaped`): its blanks
are kept, because none of them is next to a line break.
-/

namespace ClusterCapacity.Yaml

/-! ### Characters -/

/-- Whether a character is a printable one of ASCII. -/
def IsPrintable (c : Char) : Prop := 0x20 ≤ c.toNat ∧ c.toNat ≤ 0x7E

instance : DecidablePred IsPrintable := fun _ => inferInstanceAs (Decidable (_ ∧ _))

theorem isPrintable_of_all {chars : List Char} (h : chars.all (IsPrintable ·) = true) :
    ∀ c ∈ chars, IsPrintable c :=
  fun c hc => of_decide_eq_true (List.all_eq_true.mp h c hc)

theorem IsPrintable.not_isBreak {c : Char} (h : IsPrintable c) : isBreak c = false := by
  have hline : c ≠ '\n' := by
    rintro rfl
    exact absurd h (by decide)
  have hseparator : c.toNat ≠ 0x2028 ∧ c.toNat ≠ 0x2029 := by
    have := h.2
    omega
  simp [isBreak, hline, hseparator]

theorem ne_of_isWordChar {c : Char} (h : isWordChar c = true) (other : Char)
    (hother : isWordChar other = false) : c ≠ other := by
  rintro rfl
  exact Bool.false_ne_true (hother.symm.trans h)

/-- Letters and digits are ASCII. -/
theorem toNat_lt_of_isAlphanum {c : Char} (h : c.isAlphanum = true) : c.toNat < 0x80 := by
  have hlast : c.val ≤ 'Z'.val ∨ c.val ≤ 'z'.val ∨ c.val ≤ '9'.val := by
    rcases Bool.or_eq_true_iff.mp h with hletter | hdigit
    · rcases Bool.or_eq_true_iff.mp hletter with hupper | hlower
      · exact .inl (of_decide_eq_true hupper).2
      · exact .inr (.inl (of_decide_eq_true (Bool.and_eq_true_iff.mp hlower).2))
    · exact .inr (.inr (of_decide_eq_true (Bool.and_eq_true_iff.mp hdigit).2))
  rcases hlast with hlast | hlast | hlast <;>
    exact Nat.lt_of_le_of_lt (UInt32.le_iff_toNat_le.mp hlast) (by decide)

/-- A character of a word is no white space. -/
theorem not_isSpace_of_isWordChar {c : Char} (h : isWordChar c = true) : isSpace c = false := by
  have hsmall : c.toNat < 0x80 := by
    simp only [isWordChar, Bool.or_eq_true, decide_eq_true_eq] at h
    rcases h with (h | rfl) | rfl
    · exact toNat_lt_of_isAlphanum h
    · decide
    · decide
  have hseparator : c.toNat ≠ 0x2028 ∧ c.toNat ≠ 0x2029 := by omega
  simp [isSpace, isBlank, isBreak, ne_of_isWordChar h ' ' rfl,
    ne_of_isWordChar h '\t' rfl, ne_of_isWordChar h '\n' rfl, hseparator]

/-- Whether an item that is followed by `rest` ends there: at the end of the text, or before a comma
or a closing bracket inside flow brackets. -/
def EndsItem (flow : Bool) (rest : List Char) : Prop :=
  ∀ c ∈ rest.head?, flow = true ∧ c ∈ [',', ']', '}']

/-! ### Plain scalars -/

/-- A word is read as it stands. -/
theorem scanPlain_word {flow : Bool} {word rest : List Char}
    (hword : ∀ c ∈ word, isWordChar c = true) (hrest : EndsItem flow rest) (indent : Nat)
    (mark : Mark) (done : List Char) :
    scanPlain flow indent mark .none done (word ++ rest)
      = .ok ⟨done.reverse ++ word, false, ⟨mark.advance word.length, rest⟩⟩ := by
  induction word generalizing mark done with
  | nil =>
    cases rest with
    | nil => simp [scanPlain, Gap.isLines, Mark.advance]
    | cons c rest =>
      obtain ⟨rfl, hc⟩ := hrest c rfl
      simp only [List.mem_cons, List.not_mem_nil, or_false] at hc
      rcases hc with rfl | rfl | rfl <;>
        simp [scanPlain, isBlank, isBreak, endsWord, isFlowIndicator, Gap.isLines, Mark.advance]
  | cons c word ih =>
    have hc := hword c (List.mem_cons_self ..)
    have hspace := not_isSpace_of_isWordChar hc
    simp only [isSpace, Bool.or_eq_false_iff] at hspace
    have hcolon := ne_of_isWordChar hc ':' rfl
    have hflow : isFlowIndicator c = false := by
      simp [isFlowIndicator, ne_of_isWordChar hc ',' rfl,
        ne_of_isWordChar hc '[' rfl, ne_of_isWordChar hc ']' rfl,
        ne_of_isWordChar hc '{' rfl, ne_of_isWordChar hc '}' rfl]
    rw [List.cons_append, scanPlain]
    simp only [hspace, hcolon, endsWord, hflow, ne_eq, not_true_eq_false, decide_false,
      Bool.false_and, Bool.and_false, Bool.or_self, Bool.false_eq_true, ↓reduceIte]
    rw [ih (fun other hother => hword other (List.mem_cons_of_mem c hother))]
    simp [Gap.onto, Gap.text, Mark.next, Mark.advance, Nat.add_assoc, Nat.add_comm 1]

/-! ### Quoted scalars -/

/-- A blank after a gap on the same line is kept. -/
theorem Gap.onto_addBlank {gap : Gap} (h : gap.isLines = false) (c : Char) (done : List Char) :
    (gap.addBlank c).onto done = c :: gap.onto done := by
  cases gap with
  | none => rfl
  | blanks before => simp [onto, text, addBlank]
  | lines first more => nomatch h

theorem Gap.isLines_addBlank {gap : Gap} (h : gap.isLines = false) (c : Char) :
    (gap.addBlank c).isLines = false := by
  cases gap with
  | none | blanks before => rfl
  | lines first more => nomatch h

/-- A printable character that is neither quote nor backslash stands for itself. -/
theorem escapedChar_of_printable {c : Char} (hc : IsPrintable c) (hquote : c ≠ '"')
    (hslash : c ≠ '\\') : Json.escapedChar c = [c] := by
  have hcontrol : ¬ c.toNat < 0x20 := Nat.not_lt.mpr hc.1
  have hletter : ∀ letter ∈ ['\x08', '\t', '\n', '\x0c', '\r'], c ≠ letter := by
    rintro letter hmem rfl
    simp only [List.mem_cons, List.not_mem_nil, or_false] at hmem
    rcases hmem with rfl | rfl | rfl | rfl | rfl <;> exact absurd hc (by decide)
  simp only [List.mem_cons, List.not_mem_nil, or_false, forall_eq_or_imp, forall_eq] at hletter
  simp [Json.escapedChar, hquote, hslash, hletter, hcontrol]

/-- One printed character between the quotes is read as itself. -/
theorem scanDouble_escapedChar {c : Char} (hc : IsPrintable c) (hblank : isBlank c = false)
    {mark : Mark} (hmark : 0 < mark.column) (gap : Gap) (done rest : List Char) :
    scanDouble mark gap done (Json.escapedChar c ++ rest)
      = scanDouble (mark.advance (Json.escapedChar c).length) .none (c :: gap.onto done) rest := by
  have hcolumn : mark.column ≠ 0 := Nat.ne_of_gt hmark
  by_cases hquote : c = '"'
  · subst hquote
    show scanDouble mark gap done ('\\' :: '"' :: rest) = _
    rw [scanDouble.eq_def]
    simp [isBlank, isBreak, hcolumn, escapeLength?, escaped?, Json.escapedChar]
  by_cases hslash : c = '\\'
  · subst hslash
    show scanDouble mark gap done ('\\' :: '\\' :: rest) = _
    rw [scanDouble.eq_def]
    simp [isBlank, isBreak, hcolumn, escapeLength?, escaped?, Json.escapedChar]
  rw [escapedChar_of_printable hc hquote hslash, List.singleton_append, scanDouble.eq_def]
  simp only [hblank, hc.not_isBreak, hcolumn, hquote, hslash, decide_false, Bool.false_and,
    Bool.false_eq_true, ↓reduceIte, List.length_singleton]
  rfl

/-- A text that was quoted for JSON is read up to its closing quote. -/
theorem scanDouble_escaped {text : List Char} (htext : ∀ c ∈ text, IsPrintable c) (mark : Mark)
    (hmark : 0 < mark.column) (gap : Gap) (hgap : gap.isLines = false) (done rest : List Char) :
    scanDouble mark gap done (text.flatMap Json.escapedChar ++ '"' :: rest)
      = .ok ((gap.onto done).reverse ++ text,
        ⟨mark.advance ((text.flatMap Json.escapedChar).length + 1), rest⟩) := by
  induction text generalizing mark gap done with
  | nil =>
    have hcolumn : mark.column ≠ 0 := Nat.ne_of_gt hmark
    rw [List.flatMap_nil, List.nil_append, scanDouble.eq_def]
    simp [isBlank, isBreak, hcolumn, Mark.next]
  | cons c text ih =>
    have hc := htext c (List.mem_cons_self ..)
    have hrest (other : Char) (hother : other ∈ text) := htext other (List.mem_cons_of_mem c hother)
    rw [List.flatMap_cons, List.append_assoc]
    cases hblank : isBlank c with
    | false =>
      have hnext : 0 < (mark.advance (Json.escapedChar c).length).column :=
        Nat.lt_of_lt_of_le hmark (Nat.le_add_right ..)
      rw [scanDouble_escapedChar hc hblank hmark, ih hrest _ hnext _ rfl]
      simp [Gap.onto, Gap.text, Mark.advance, Nat.add_assoc]
    | true =>
      -- the only printable blank is the space, which goes into the gap
      obtain rfl : c = ' ' := by
        have htab : c ≠ '\t' := by
          rintro rfl
          exact absurd hc (by decide)
        simpa [isBlank, htab] using hblank
      have hnext : 0 < mark.next.column := Nat.succ_pos _
      show scanDouble mark gap done (' ' :: (text.flatMap Json.escapedChar ++ '"' :: rest)) = _
      rw [scanDouble.eq_def]
      simp only [hblank, ↓reduceIte]
      rw [ih hrest _ hnext _ (Gap.isLines_addBlank hgap ' '), Gap.onto_addBlank hgap]
      simp [Mark.next, Mark.advance, Json.escapedChar, Nat.add_assoc, Nat.add_comm 1]

/-- What a printable character is printed as is printable and has two characters at most. -/
theorem escapedChar_printable {c : Char} (hc : IsPrintable c) :
    (∀ other ∈ Json.escapedChar c, IsPrintable other) ∧ (Json.escapedChar c).length ≤ 2 := by
  by_cases hquote : c = '"'
  · subst hquote
    exact ⟨isPrintable_of_all (by decide), by decide⟩
  by_cases hslash : c = '\\'
  · subst hslash
    exact ⟨isPrintable_of_all (by decide), by decide⟩
  rw [escapedChar_of_printable hc hquote hslash]
  exact ⟨List.forall_mem_singleton.mpr hc, by simp⟩

theorem isPrintable_quoted {text : String} (h : ∀ c ∈ text.toList, IsPrintable c) :
    ∀ c ∈ Json.quoted text, IsPrintable c := by
  intro c hc
  simp only [Json.quoted, List.mem_cons, List.mem_append, List.mem_flatMap, List.not_mem_nil,
    or_false] at hc
  rcases hc with rfl | ⟨source, hsource, hc⟩ | rfl
  · decide
  · exact (escapedChar_printable (h source hsource)).1 c hc
  · decide

theorem length_quoted_le {text : String} (h : ∀ c ∈ text.toList, IsPrintable c) :
    (Json.quoted text).length ≤ 2 * text.length + 2 := by
  have hescaped (characters : List Char) (h : ∀ c ∈ characters, IsPrintable c) :
      (characters.flatMap Json.escapedChar).length ≤ 2 * characters.length := by
    induction characters with
    | nil => exact Nat.le_refl 0
    | cons c characters ih =>
      obtain ⟨hc, hrest⟩ := List.forall_mem_cons.mp h
      have hlength := (escapedChar_printable hc).2
      have hmore := ih hrest
      rw [List.flatMap_cons, List.length_append, List.length_cons]
      omega
  have hlength := hescaped text.toList h
  rw [String.length_toList] at hlength
  simp only [Json.quoted, List.length_cons, List.length_append, List.length_nil]
  omega

end ClusterCapacity.Yaml
