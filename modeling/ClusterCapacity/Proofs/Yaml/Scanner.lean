import ClusterCapacity.Proofs.Yaml.Scalars
import ClusterCapacity.Yaml.Token

/-!
# Scanning one line

As long as a text is one line without blocks, the state of a scanner within it is known up to the
places where keys may have begun (`Scanner.OnLine`).  Each bracket, comma, word, text in quotes and
key takes the scanner to the next such state (`Scanner.Takes`), and what is taken piece by piece is
what the whole text is scanned as (`scan_of_takes`).
-/

namespace ClusterCapacity.Yaml

/-! ### States on a line -/

namespace Scanner

/-- The state of a scanner on the first line of a text without blocks, with `depth` flow brackets
open. -/
structure OnLine (scanner : Scanner) (index : Nat) (rest : List Char) (done : List Token)
    (keyAllowed : Bool) (depth : Nat) : Prop where
  cursor : scanner.cursor = ⟨⟨index, 0, index⟩, rest⟩
  tokens : scanner.tokens = done.reverse
  count : scanner.count = done.length
  indents : scanner.indents = []
  keyAllowed : scanner.keyAllowed = keyAllowed
  depth : scanner.keys.length = depth + 1
  optional : ∀ key? ∈ scanner.keys, ∀ key ∈ key?, key.required = false

/-- Whether running from one state comes to another, taking at most one token for every character
that is passed. -/
def Leads (before after : Scanner) : Prop :=
  ∃ steps, before.mark.index + steps ≤ after.mark.index ∧
    ∀ fuel, run (fuel + steps) before = run fuel after

theorem Leads.refl (scanner : Scanner) : scanner.Leads scanner :=
  ⟨0, Nat.le_refl _, fun _ => rfl⟩

theorem Leads.trans {first second third : Scanner} (h : first.Leads second)
    (hnext : second.Leads third) : first.Leads third := by
  obtain ⟨steps, hsteps, hrun⟩ := h
  obtain ⟨more, hmore, hgo⟩ := hnext
  refine ⟨steps + more, by omega, ?_⟩
  intro fuel
  rw [Nat.add_comm steps, ← Nat.add_assoc, hrun, hgo]

variable {scanner : Scanner} {index depth : Nat} {rest : List Char} {done : List Token}
  {keyAllowed : Bool}

theorem OnLine.inFlow (h : scanner.OnLine index rest done keyAllowed depth) :
    scanner.inFlow = decide (0 < depth) := by
  rw [Scanner.inFlow, h.depth, decide_eq_decide]
  omega

theorem OnLine.mark (h : scanner.OnLine index rest done keyAllowed depth) :
    scanner.mark = ⟨index, 0, index⟩ := by
  rw [Scanner.mark, h.cursor]

/-! ### Going to a token -/

/-- The scanner without the key marks that are too far behind. -/
def fresh (scanner : Scanner) : Scanner :=
  { scanner with keys := scanner.keys.map (Option.filter (·.reaches scanner.mark)) }

theorem OnLine.fresh (h : scanner.OnLine index rest done keyAllowed depth) :
    scanner.fresh.OnLine index rest done keyAllowed depth where
  cursor := h.cursor
  tokens := h.tokens
  count := h.count
  indents := h.indents
  keyAllowed := h.keyAllowed
  depth := by rw [Scanner.fresh, List.length_map, h.depth]
  optional := by
    intro key? hkey key hmem
    obtain ⟨older, holder, rfl⟩ := List.mem_map.mp hkey
    exact h.optional older holder key (Option.mem_filter_iff.mp hmem).1

theorem mapM_eq_map {α β : Type} {f : α → Except Fault β} {g : α → β} {items : List α}
    (h : ∀ item ∈ items, f item = .ok (g item)) : items.mapM f = .ok (items.map g) := by
  induction items with
  | nil => rfl
  | cons item items ih =>
    rw [List.mapM_cons, h item (List.mem_cons_self ..),
      ih (fun other hother => h other (List.mem_cons_of_mem item hother))]
    rfl

theorem OnLine.dropStaleKeys_eq (h : scanner.OnLine index rest done keyAllowed depth) :
    scanner.dropStaleKeys = .ok scanner.fresh := by
  rw [dropStaleKeys, mapM_eq_map (g := Option.filter (·.reaches scanner.mark))]
  · rfl
  · intro key? hkey
    cases key? with
    | none => rfl
    | some key =>
      have hrequired := h.optional _ hkey key rfl
      cases hreaches : key.reaches scanner.mark <;> simp [Option.filter, hreaches, hrequired]

/-- Whether a character is neither white space nor the beginning of a comment. -/
def BeginsToken (c : Char) : Prop := isSpace c = false ∧ c ≠ '#'

instance : DecidablePred BeginsToken := fun _ => inferInstanceAs (Decidable (_ ∧ _))

theorem OnLine.toNextToken_eq (hrest : ∀ c ∈ rest.head?, BeginsToken c)
    (h : scanner.OnLine index rest done keyAllowed depth) :
    scanner.toNextToken = .ok scanner.fresh := by
  have hskip : skipSpace scanner.inFlow scanner.keyAllowed false scanner.mark scanner.cursor.rest
      = (scanner.keyAllowed, scanner.cursor) := by
    rw [Scanner.mark, h.cursor]
    cases rest with
    | nil => rfl
    | cons c rest =>
      obtain ⟨hspace, hcomment⟩ := hrest c rfl
      simp only [isSpace, isBlank, Bool.or_eq_false_iff, decide_eq_false_iff_not] at hspace
      obtain ⟨⟨hblank, htab⟩, hbreak⟩ := hspace
      simp [skipSpace, hblank, htab, hbreak, hcomment]
  have hunindent : scanner.fresh.unindent scanner.fresh.mark.column = scanner.fresh := by
    have hindents : scanner.fresh.indents = [] := h.indents
    rw [unindent, hindents, closeBlocks]
    split
    · rfl
    · rw [← hindents]
  rw [toNextToken, hskip]
  show (do
    let scanner ← scanner.dropStaleKeys
    Except.ok (scanner.unindent scanner.mark.column)) = _
  rw [h.dropStaleKeys_eq]
  exact congrArg Except.ok hunindent

/-- A token that takes characters leads on. -/
theorem OnLine.leads {c : Char} (hc : BeginsToken c)
    (h : scanner.OnLine index (c :: rest) done keyAllowed depth) {after : Scanner}
    (htake : scanner.fresh.takeToken c rest = .ok after) (hindex : index < after.mark.index) :
    scanner.Leads after := by
  refine ⟨1, ?_, ?_⟩
  · rw [h.mark]
    exact hindex
  · intro fuel
    have hhead : ∀ other ∈ (c :: rest).head?, BeginsToken other := by
      rintro other ⟨⟩
      exact hc
    rw [run, h.toNextToken_eq hhead]
    simp only [bind, Except.bind, h.fresh.cursor, htake]

/-! ### Key marks -/

theorem OnLine.setKey (h : scanner.OnLine index rest done keyAllowed depth) (key? : Option KeyMark)
    (hkey : ∀ key ∈ key?, key.required = false) :
    (scanner.setKey key?).OnLine index rest done keyAllowed depth where
  cursor := h.cursor
  tokens := h.tokens
  count := h.count
  indents := h.indents
  keyAllowed := h.keyAllowed
  depth := by
    have hdepth := h.depth
    simp only [Scanner.setKey, List.length_cons, List.length_drop]
    omega
  optional := by
    intro other hother
    rcases List.mem_cons.mp hother with rfl | hother
    · exact hkey
    · exact h.optional other (List.mem_of_mem_drop hother)

theorem OnLine.dropKey_eq (h : scanner.OnLine index rest done keyAllowed depth) :
    scanner.dropKey = .ok (scanner.setKey none) := by
  have hany : scanner.key?.any KeyMark.required = false := by
    cases hkey : scanner.key? with
    | none => rfl
    | some key =>
      have hmem : some key ∈ scanner.keys := by
        rw [key?, Option.join_eq_some_iff] at hkey
        exact List.mem_of_head? hkey
      exact h.optional _ hmem key rfl
  rw [dropKey, hany]
  rfl

/-- Where a key may begin its place is noted. -/
theorem OnLine.markKey (h : scanner.OnLine index rest done keyAllowed depth) :
    ∃ after, scanner.markKey = .ok after ∧ after.OnLine index rest done keyAllowed depth ∧
      (keyAllowed = true → after.key? = some ⟨done.length, ⟨index, 0, index⟩, false⟩) := by
  cases keyAllowed with
  | false =>
    refine ⟨scanner, ?_, h, nofun⟩
    rw [Scanner.markKey, h.keyAllowed]
    rfl
  | true =>
    have hdropped := h.setKey none nofun
    refine ⟨(scanner.setKey none).setKey (some ⟨done.length, ⟨index, 0, index⟩, false⟩), ?_,
      hdropped.setKey _ ?_, fun _ => rfl⟩
    · rw [Scanner.markKey, h.keyAllowed, h.dropKey_eq]
      simp only [↓reduceIte, bind, Except.bind, hdropped.count, hdropped.mark, hdropped.indents]
      simp
    · rintro key ⟨⟩
      rfl

/-! ### Single tokens -/

/-- A token of one character is taken. -/
theorem OnLine.take {c : Char} (h : scanner.OnLine index (c :: rest) done keyAllowed depth)
    (token : Token) :
    (scanner.take 1 token).OnLine (index + 1) rest (done ++ [token]) keyAllowed depth where
  cursor := by simp [Scanner.take, advance, push, h.cursor, Cursor.advance, Mark.advance]
  tokens := by simp [Scanner.take, advance, push, h.tokens]
  count := by simp [Scanner.take, advance, push, h.count]
  indents := h.indents
  keyAllowed := h.keyAllowed
  depth := h.depth
  optional := h.optional

/-- A scalar is taken, and no key can begin right after it. -/
theorem OnLine.takeScalar (h : scanner.OnLine index rest done keyAllowed depth) (last : Nat)
    (after : List Char) (token : Token) :
    ({ scanner with cursor := ⟨⟨last, 0, last⟩, after⟩, keyAllowed := false }.push token).OnLine
      last after (done ++ [token]) false depth where
  cursor := rfl
  tokens := by simp [push, h.tokens]
  count := by simp [push, h.count]
  indents := h.indents
  keyAllowed := rfl
  depth := h.depth
  optional := h.optional

/-- Whether a key may begin somewhere, and how many flow brackets are open there. -/
structure Place where
  keyAllowed : Bool
  depth : Nat

/-- Whether a scanner that comes to the characters, with `rest` after them, takes them as just the
tokens. -/
def Takes (chars rest : List Char) (tokens : List Token) (before after : Place) : Prop :=
  ∀ ⦃scanner : Scanner⦄ ⦃index : Nat⦄ ⦃done : List Token⦄,
    scanner.OnLine index (chars ++ rest) done before.keyAllowed before.depth →
    ∃ reached, scanner.Leads reached ∧
      reached.OnLine (index + chars.length) rest (done ++ tokens) after.keyAllowed after.depth

theorem Takes.append {chars more rest : List Char} {tokens others : List Token}
    {first second third : Place} (h : Takes chars (more ++ rest) tokens first second)
    (hmore : Takes more rest others second third) :
    Takes (chars ++ more) rest (tokens ++ others) first third := by
  intro scanner index done hscanner
  rw [List.append_assoc] at hscanner
  obtain ⟨middle, hleads, hmiddle⟩ := h hscanner
  obtain ⟨last, hgo, hlast⟩ := hmore hmiddle
  refine ⟨last, hleads.trans hgo, ?_⟩
  rwa [List.length_append, ← Nat.add_assoc, ← List.append_assoc]

theorem takes_openFlow {c : Char} {token : Token} (hc : BeginsToken c)
    (htake : ∀ (scanner : Scanner) rest, scanner.takeToken c rest = scanner.openFlow token) :
    Takes [c] rest [token] ⟨keyAllowed, depth⟩ ⟨true, depth + 1⟩ := by
  intro scanner index done (h : scanner.OnLine index (c :: rest) done keyAllowed depth)
  obtain ⟨marked, hmark, hmarked, -⟩ := h.fresh.markKey
  have hinside : ({ marked with keys := none :: marked.keys, keyAllowed := true }).OnLine index
      (c :: rest) done true (depth + 1) := {
    hmarked with
    keyAllowed := rfl
    depth := congrArg (· + 1) hmarked.depth
    optional := by
      intro key? hkey
      rcases List.mem_cons.mp hkey with rfl | hkey
      · exact nofun
      · exact hmarked.optional key? hkey }
  have hafter := hinside.take token
  refine ⟨_, h.leads hc ?_ ?_, hafter⟩
  · rw [htake, Scanner.openFlow, hmark]
    rfl
  · rw [hafter.mark]
    exact Nat.lt_succ_self index

theorem takes_closeFlow {c : Char} {token : Token} (hc : BeginsToken c)
    (htake : ∀ (scanner : Scanner) rest, scanner.takeToken c rest = scanner.closeFlow token) :
    Takes [c] rest [token] ⟨keyAllowed, depth + 1⟩ ⟨false, depth⟩ := by
  intro scanner index done (h : scanner.OnLine index (c :: rest) done keyAllowed (depth + 1))
  have hdropped := h.fresh.setKey none nofun
  have houtside : ({ scanner.fresh.setKey none with
      keys := (scanner.fresh.setKey none).keys.drop 1, keyAllowed := false }).OnLine index
      (c :: rest) done false depth := {
    hdropped with
    keyAllowed := rfl
    depth := by
      have hdepth := hdropped.depth
      rw [List.length_drop]
      omega
    optional := fun key? hkey => hdropped.optional key? (List.mem_of_mem_drop hkey) }
  have hafter := houtside.take token
  refine ⟨_, h.leads hc ?_ ?_, hafter⟩
  · rw [htake, Scanner.closeFlow, h.fresh.dropKey_eq]
    have hflow := hdropped.inFlow
    simp only [bind, Except.bind, hflow, Nat.zero_lt_succ, decide_true, ↓reduceIte]
  · rw [hafter.mark]
    exact Nat.lt_succ_self index

theorem takes_comma : Takes [','] rest [.flowEntry] ⟨keyAllowed, depth⟩ ⟨true, depth⟩ := by
  intro scanner index done (h : scanner.OnLine index (',' :: rest) done keyAllowed depth)
  have hdropped := h.fresh.setKey none nofun
  have hallowed : ({ scanner.fresh.setKey none with keyAllowed := true }).OnLine index
      (',' :: rest) done true depth := { hdropped with keyAllowed := rfl }
  have hafter := hallowed.take .flowEntry
  refine ⟨_, h.leads (by decide) ?_ ?_, hafter⟩
  · have htake : scanner.fresh.takeToken ',' rest = scanner.fresh.takeFlowEntry := by
      simp [takeToken, atDocumentMark]
    rw [htake, takeFlowEntry, h.fresh.dropKey_eq]
    rfl
  · rw [hafter.mark]
    exact Nat.lt_succ_self index

/-! ### Scalars -/

/-- A printable text in quotes is a scalar; the place where it begins is noted if it may be a
key. -/
theorem OnLine.quoted {text : String} (htext : ∀ c ∈ text.toList, IsPrintable c)
    (h : scanner.OnLine index (Json.quoted text ++ rest) done keyAllowed depth) :
    ∃ after, scanner.Leads after ∧
      after.OnLine (index + (Json.quoted text).length) rest
        (done ++ [.scalar .doubleQuoted text]) false depth ∧
      (keyAllowed = true → after.key? = some ⟨done.length, ⟨index, 0, index⟩, false⟩) := by
  have hchars : Json.quoted text ++ rest
      = '"' :: (text.toList.flatMap Json.escapedChar ++ '"' :: rest) := by
    simp [Json.quoted]
  rw [hchars] at h
  obtain ⟨marked, hmark, hmarked, hkey⟩ := h.fresh.markKey
  have hafter := hmarked.takeScalar (index + (Json.quoted text).length) rest
    (.scalar .doubleQuoted text)
  refine ⟨_, h.leads (by decide) ?_ ?_, hafter, hkey⟩
  · have htake : scanner.fresh.takeToken '"' (text.toList.flatMap Json.escapedChar ++ '"' :: rest)
        = scanner.fresh.takeQuoted .doubleQuoted scanDouble := by
      simp [takeToken, atDocumentMark]
    have hscan := scanDouble_escaped htext ⟨index + 1, 0, index + 1⟩ (Nat.succ_pos index) .none rfl
      [] rest
    have hmarkNext : (⟨index, 0, index⟩ : Mark).next = ⟨index + 1, 0, index + 1⟩ := rfl
    have hlength : (Json.quoted text).length
        = 1 + ((text.toList.flatMap Json.escapedChar).length + 1) := by
      simp [Json.quoted, Nat.add_comm]
    rw [htake, takeQuoted, takeKeyPart, hmark]
    simp only [bind, Except.bind, hmarked.cursor, List.drop_one, List.tail_cons, hmarkNext, hscan,
      Gap.onto, Gap.text, List.reverse_nil, List.nil_append, String.ofList_toList, Mark.advance,
      hlength, Nat.add_assoc]
  · rw [hafter.mark, Json.quoted]
    simp

/-- The characters that mean something else at the beginning of a token. -/
def indicators : List Char :=
  ['%', '.', '[', '{', ']', '}', ',', '?', ':', '*', '&', '!', '|', '>', '\'', '"', '#', '@',
    '\x60']

theorem takes_text {text : String} (htext : ∀ c ∈ text.toList, IsPrintable c) :
    Takes (Json.quoted text) rest [.scalar .doubleQuoted text] ⟨keyAllowed, depth⟩
      ⟨false, depth⟩ := by
  intro scanner index done h
  obtain ⟨after, hleads, hafter, -⟩ := h.quoted htext
  exact ⟨after, hleads, hafter⟩

theorem takeToken_letter {c : Char} (hc : isWordChar c = true) (hsign : c ≠ '-')
    (rest : List Char) : scanner.takeToken c rest = scanner.takePlain := by
  have hindicators : indicators.all (!isWordChar ·) = true := by decide
  have hne : ∀ other ∈ indicators, c ≠ other := by
    intro other hother
    exact ne_of_isWordChar hc other (by simpa using List.all_eq_true.mp hindicators other hother)
  simp only [indicators, List.mem_cons, List.not_mem_nil, or_false,
    forall_eq_or_imp, forall_eq] at hne
  have hmark : atDocumentMark (c :: rest) = false := by
    unfold atDocumentMark
    split
    · rename_i heq
      exact absurd (List.cons.inj heq).1 hsign
    · rename_i heq
      exact absurd (List.cons.inj heq).1 hne.2.1
    · rfl
  have hplain : startsPlain scanner.inFlow c rest = true := by
    simp [startsPlain, not_isSpace_of_isWordChar hc, hne, hsign]
  simp only [takeToken, hne, hsign, hmark, hplain, decide_false, Bool.and_false, Bool.false_and,
    Bool.false_eq_true, ↓reduceIte]

theorem takeToken_sign {c : Char} (hc : isWordChar c = true) (hsign : c ≠ '-')
    (rest : List Char) : scanner.takeToken '-' (c :: rest) = scanner.takePlain := by
  have hmark : atDocumentMark ('-' :: c :: rest) = false := by
    unfold atDocumentMark
    split
    · rename_i heq
      exact absurd (List.cons.inj (List.cons.inj heq).2).1 hsign
    · rename_i heq
      exact absurd (List.cons.inj heq).1 (by decide)
    · rfl
  have hspace := not_isSpace_of_isWordChar hc
  have hblank : isBlank c = false := by
    rw [isSpace, Bool.or_eq_false_iff] at hspace
    exact hspace.1
  simp [takeToken, startsPlain, atSpace, hmark, hspace, hblank]

/-- A word is a plain scalar, also with a sign in front. -/
inductive IsWord : List Char → Prop where
  | unsigned {c : Char} {word : List Char} (hc : isWordChar c = true) (hsign : c ≠ '-')
    (hword : word.all isWordChar = true) : IsWord (c :: word)
  | signed {c : Char} {word : List Char} (hc : isWordChar c = true) (hsign : c ≠ '-')
    (hword : word.all isWordChar = true) : IsWord ('-' :: c :: word)

/-- A word is taken as a plain scalar. -/
theorem takes_word {word : List Char} (hword : IsWord word) (hends : EndsItem (0 < depth) rest) :
    Takes word rest [.scalar .plain (String.ofList word)] ⟨keyAllowed, depth⟩ ⟨false, depth⟩ := by
  intro scanner index done (h : scanner.OnLine index (word ++ rest) done keyAllowed depth)
  obtain ⟨c, others, rfl, hchars, htake⟩ : ∃ c others, word = c :: others ∧
      (∀ other ∈ c :: others, isWordChar other = true) ∧
      ∀ scanner : Scanner, scanner.takeToken c (others ++ rest) = scanner.takePlain := by
    cases hword with
    | unsigned hc hsign hword =>
      exact ⟨_, _, rfl, List.forall_mem_cons.mpr ⟨hc, List.all_eq_true.mp hword⟩,
        fun _ => takeToken_letter hc hsign _⟩
    | signed hc hsign hword =>
      exact ⟨_, _, rfl, List.forall_mem_cons.mpr
          ⟨rfl, List.forall_mem_cons.mpr ⟨hc, List.all_eq_true.mp hword⟩⟩,
        fun _ => takeToken_sign hc hsign _⟩
  have hbegins : BeginsToken c :=
    ⟨not_isSpace_of_isWordChar (hchars c (List.mem_cons_self ..)),
      ne_of_isWordChar (hchars c (List.mem_cons_self ..)) '#' rfl⟩
  rw [List.cons_append] at h
  obtain ⟨marked, hmark, hmarked, -⟩ := h.fresh.markKey
  have hafter := hmarked.takeScalar (index + (c :: others).length) rest
    (.scalar .plain (String.ofList (c :: others)))
  refine ⟨_, h.leads hbegins ?_ ?_, hafter⟩
  · have hscan := scanPlain_word hchars hends marked.floor ⟨index, 0, index⟩ []
    rw [htake, takePlain, hmark]
    simp only [bind, Except.bind, hmarked.inFlow, hmarked.cursor, hmarked.mark]
    rw [← List.cons_append, hscan]
    rfl
  · rw [hafter.mark]
    simp

/-! ### Keys -/

/-- The mark of a key is put in front of the token that turns out to be one. -/
theorem OnLine.insertKey {token : Token}
    (h : scanner.OnLine index rest (done ++ [token]) keyAllowed depth) :
    (scanner.insert done.length .key).OnLine index rest (done ++ [.key, token]) keyAllowed depth :=
  { h with
    tokens := by simp [insert, h.tokens, h.count]
    count := by simp [insert, h.count] }

theorem key?_fresh {key : KeyMark} (h : scanner.key? = some key)
    (hreaches : key.reaches scanner.mark = true) : scanner.fresh.key? = some key := by
  rw [key?, Option.join_eq_some_iff] at h
  simp [key?, Scanner.fresh, List.head?_map, h, Option.filter, hreaches]

/-- No block begins inside flow brackets. -/
theorem indent_of_inFlow (h : scanner.inFlow = true) (column position : Nat) (token : Token) :
    scanner.indent column position token = scanner := by
  rw [indent, h]
  rfl

/-- A name in quotes and the colon after it are a key, if the name is not too long for one. -/
theorem takes_key {name : String} (hname : ∀ c ∈ name.toList, IsPrintable c)
    (hlength : (Json.quoted name).length ≤ 1024) :
    Takes (Json.quoted name ++ [':']) rest [.key, .scalar .doubleQuoted name, .value]
      ⟨true, depth + 1⟩ ⟨false, depth + 1⟩ := by
  intro scanner index done h
  rw [List.append_assoc, List.singleton_append] at h
  obtain ⟨named, hleads, hnamed, hkey⟩ := h.quoted hname
  have hmarked : named.fresh.key? = some ⟨done.length, ⟨index, 0, index⟩, false⟩ := by
    apply key?_fresh (hkey rfl)
    rw [hnamed.mark]
    simpa [KeyMark.reaches] using hlength
  have hflow : named.fresh.inFlow = true := by
    rw [hnamed.fresh.inFlow, decide_eq_true_eq]
    exact Nat.succ_pos depth
  have hcolon : ({ (named.fresh.insert done.length .key).setKey none with
      keyAllowed := false }).OnLine (index + (Json.quoted name).length) (':' :: rest)
      (done ++ [Token.key, .scalar .doubleQuoted name]) false (depth + 1) :=
    { hnamed.fresh.insertKey.setKey none nofun with keyAllowed := rfl }
  have hafter := hcolon.take .value
  have hchars : (Json.quoted name ++ [':']).length = (Json.quoted name).length + 1 :=
    List.length_append
  rw [List.append_assoc, Nat.add_assoc, ← hchars] at hafter
  refine ⟨_, hleads.trans (hnamed.leads (by decide) ?_ ?_), hafter⟩
  · have htake : named.fresh.takeToken ':' rest = named.fresh.takeValue := by
      simp [takeToken, atDocumentMark, hflow]
    have hinserted : (named.fresh.insert done.length .key).inFlow = true := hflow
    rw [htake, takeValue, hmarked]
    dsimp only
    rw [indent_of_inFlow hinserted]
  · rw [hafter.mark, hchars]
    exact Nat.lt_succ_self _

/-! ### The whole text -/

/-- At the end of the text no bracket or block is left to be closed. -/
theorem OnLine.run_nil (h : scanner.OnLine index [] done keyAllowed 0) (fuel : Nat) :
    ∃ last, run (fuel + 1) scanner = .ok last ∧ last.tokens = done.reverse := by
  have hflow : scanner.fresh.inFlow = false := h.fresh.inFlow
  have hclosed : scanner.fresh.closeAll.OnLine index [] done keyAllowed 0 := by
    rw [closeAll, hflow]
    exact { h.fresh with
      tokens := by simp [h.fresh.indents, h.fresh.tokens]
      count := by simp [h.fresh.indents, h.fresh.count]
      indents := rfl }
  refine ⟨scanner.fresh.closeAll.setKey none, ?_, hclosed.tokens⟩
  rw [run, h.toNextToken_eq (by simp)]
  simp only [bind, Except.bind, h.fresh.cursor, finish, hclosed.dropKey_eq]

/-- Characters that are taken as a whole are scanned as their tokens. -/
theorem scan_of_takes {chars : List Char} {tokens : List Token} {keyAllowed : Bool}
    (h : Takes chars [] tokens ⟨true, 0⟩ ⟨keyAllowed, 0⟩) : Token.scan chars = .ok tokens := by
  have hstart : (ofText chars).OnLine 0 (chars ++ []) [] true 0 := {
    cursor := by rw [List.append_nil]; rfl
    tokens := rfl
    count := rfl
    indents := rfl
    keyAllowed := rfl
    depth := rfl
    optional := by simp [ofText] }
  obtain ⟨reached, ⟨steps, hsteps, hrun⟩, hreached⟩ := h hstart
  have henough : steps ≤ chars.length := by
    rw [hreached.mark] at hsteps
    simpa [Scanner.mark, ofText] using hsteps
  obtain ⟨last, hlast, htokens⟩ := hreached.run_nil (chars.length - steps)
  have hfuel : chars.length + 1 = chars.length - steps + 1 + steps := by omega
  rw [Token.scan, hfuel, hrun, hlast]
  simp only [bind, Except.bind, htokens, List.reverse_reverse, List.nil_append]

end Scanner

/-! ### Printable texts -/

theorem unifyBreaks_of_printable {text : List Char} (h : ∀ c ∈ text, IsPrintable c) :
    unifyBreaks text = text := by
  induction text with
  | nil => rfl
  | cons c text ih =>
    obtain ⟨hc, htext⟩ := List.forall_mem_cons.mp h
    have hreturn : c ≠ '\r' := by
      rintro rfl
      exact absurd hc (by decide)
    have hnext : c.toNat ≠ 0x85 := by
      have := hc.2
      omega
    rw [unifyBreaks, ih htext]
    · simp [hreturn, hnext]
    · simp [hreturn]

/-- A printable text is ready to be scanned. -/
theorem prepare_of_printable {text : List Char} (h : ∀ c ∈ text, IsPrintable c) :
    prepare (String.ofList text) = .ok text := by
  have hmark : dropOrderMark text = text := by
    cases text with
    | nil => rfl
    | cons c text =>
      have hc : c.toNat ≠ 0xFEFF := by
        have := (h c (List.mem_cons_self ..)).2
        omega
      rw [dropOrderMark, if_neg hc]
  have hallowed : text.all isAllowed = true := by
    rw [List.all_eq_true]
    intro c hc
    simp [isAllowed, (h c hc).1, (h c hc).2]
  rw [prepare, String.toList_ofList, hmark, if_pos hallowed, unifyBreaks_of_printable h]

end ClusterCapacity.Yaml
