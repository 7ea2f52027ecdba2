import ClusterCapacity.Proofs.Results
import ClusterCapacity.Proofs.Text.Pieces
import ClusterCapacity.Proofs.Url.Percent
import ClusterCapacity.Url.Parse

/-!
# The paths of web addresses

The path of a web address that was read is a list of segments that is never empty, and no segment
holds a slash (`exists_segments_of_parse`).  A plain relative path takes the place of the last
segment of such a path (`resolve_eq`), that is, of what follows the last slash of the address
(`exists_folder`).
-/

namespace ClusterCapacity.Url

variable {kind : Kind} {text segment : List Char} {reversed segments : List (List Char)}

/-! ### Segments without slashes -/

/-- Whether no segment of a path holds a slash. -/
def Slashless (segments : List (List Char)) : Prop := ∀ segment ∈ segments, '/' ∉ segment

theorem slashless_nil : Slashless [] := List.forall_mem_nil _

theorem Slashless.cons (hsegment : '/' ∉ segment) (h : Slashless segments) :
    Slashless (segment :: segments) :=
  List.forall_mem_cons.mpr ⟨hsegment, h⟩

theorem Slashless.reverse (h : Slashless segments) : Slashless segments.reverse :=
  fun segment hsegment => h segment (List.mem_reverse.mp hsegment)

theorem slashless_splitSegments (kind : Kind) (text : List Char) :
    Slashless (splitSegments kind text) := by
  intro segment hsegment
  obtain ⟨piece, hpiece, rfl⟩ := List.mem_map.mp hsegment
  have hslash : '/' ∉ piece := by
    intro hmem
    have hfalse := Text.eq_false_of_mem_splitOnP hpiece '/' hmem
    rw [isSeparator, decide_eq_true rfl, Bool.true_or] at hfalse
    nomatch hfalse
  exact not_mem_percentEncode (by decide) (by decide) hslash unsafeInPath

theorem Slashless.goUp (h : Slashless reversed) : Slashless (goUp kind reversed) := by
  unfold Url.goUp
  split
  case h_1 => exact h
  case h_2 only =>
    split
    · exact h
    · exact slashless_nil
  case h_3 before _ => exact fun segment hsegment => h segment (List.mem_cons_of_mem _ hsegment)

theorem Slashless.appendSegment (isLast : Bool) (h : Slashless reversed)
    (hsegment : '/' ∉ segment) : Slashless (appendSegment kind isLast reversed segment) := by
  have hempty : '/' ∉ ([] : List Char) := List.not_mem_nil
  unfold Url.appendSegment
  split_ifs
  · exact .cons hempty h.goUp
  · exact h.goUp
  · exact .cons hempty h
  · exact h
  · refine .cons ?_ slashless_nil
    rw [List.mem_append, not_or]
    exact ⟨fun hmem => hsegment (List.mem_of_mem_take hmem), by decide⟩
  · exact .cons hsegment h

theorem Slashless.appendSegments (h : Slashless reversed) (hsegments : Slashless segments) :
    Slashless (appendSegments kind reversed segments) := by
  -- the cases are those of the recursion: the last segment is appended in a way of its own
  induction segments generalizing reversed with
  | nil => exact h
  | cons segment rest ih =>
    obtain ⟨hsegment, hrest⟩ := List.forall_mem_cons.mp hsegments
    cases rest with
    | nil => exact h.appendSegment true hsegment
    | cons next rest => exact ih (h.appendSegment false hsegment) hrest

/-! ### The path of a web address -/

theorem appendSegment_last_ne_nil (reversed : List (List Char)) (segment : List Char) :
    appendSegment kind true reversed segment ≠ [] := by
  simp only [appendSegment, ↓reduceIte]
  split_ifs <;> exact List.cons_ne_nil _ _

theorem appendSegments_ne_nil (h : segments ≠ []) (reversed : List (List Char)) :
    appendSegments kind reversed segments ≠ [] := by
  induction segments generalizing reversed with
  | nil => exact absurd rfl h
  | cons segment rest ih =>
    cases rest with
    | nil => exact appendSegment_last_ne_nil reversed segment
    | cons next rest => exact ih (List.cons_ne_nil _ _) _

theorem extendPath_web (text : List Char) :
    extendPath .web [] text ≠ [] ∧ Slashless (extendPath .web [] text) := by
  have hpieces : splitSegments .web text ≠ [] := by
    rw [splitSegments, ne_eq, List.map_eq_nil_iff]
    exact List.splitOnP_ne_nil _ _
  have hextend : extendPath .web [] text
      = (appendSegments .web [] (splitSegments .web text)).reverse := rfl
  rw [hextend, ne_eq, List.reverse_eq_nil_iff]
  exact ⟨appendSegments_ne_nil hpieces [],
    (slashless_nil.appendSegments (slashless_splitSegments .web text)).reverse⟩

theorem parsePath_web (text : List Char) :
    parsePath .web text ≠ [] ∧ Slashless (parsePath .web text) := by
  unfold parsePath
  split
  case h_1 => exact ⟨List.cons_ne_nil _ _, slashless_nil.cons List.not_mem_nil⟩
  case h_2 c rest =>
    split
    · exact extendPath_web rest
    · exact extendPath_web (c :: rest)

/-! ### Reading a web address -/

theorem of_parseWithAuthority {scheme : List Char} {url : Url}
    (h : parseWithAuthority scheme text = .ok url) :
    url.scheme = scheme ∧ ∃ authority path, url.authority = some authority ∧
      url.path = .segments (parsePath (.ofScheme scheme) path) := by
  obtain ⟨authority, -, ⟨⟩⟩ := bind_eq_ok.mp h
  exact ⟨rfl, authority, _, rfl, rfl⟩

theorem scheme_of_parseFile {scheme : List Char} {url : Url}
    (h : parseFile scheme text = .ok url) : url.scheme = scheme := by
  unfold parseFile at h
  dsimp only at h
  split at h
  case h_1 a b rest hplace =>
    split at h
    · split at h
      · cases h
        rfl
      · obtain ⟨host, -, ⟨⟩⟩ := bind_eq_ok.mp h
        rfl
    · cases h
      rfl
  case h_2 =>
    cases h
    rfl

theorem scheme_of_parseOther {scheme : List Char} {url : Url}
    (h : parseOther scheme text = .ok url) : url.scheme = scheme := by
  unfold parseOther at h
  split at h
  · exact (of_parseWithAuthority h).1
  · cases h
    rfl
  · cases h
    rfl

/-- A web address has an authority, and a path of at least one segment, none with a slash. -/
theorem exists_segments_of_parse {source : String} {url : Url} (h : parse source = .ok url)
    (hweb : url.kind = .web) : ∃ authority segments, url.authority = some authority ∧
      url.path = .segments segments ∧ segments ≠ [] ∧ Slashless segments := by
  unfold parse at h
  split at h
  case h_1 => nomatch h
  case h_2 scheme rest _ =>
    -- the other ways of reading leave a scheme that is not of the web
    split at h
    case h_1 hscheme =>
      obtain ⟨-, authority, path, hauthority, hpath⟩ := of_parseWithAuthority h
      rw [hscheme] at hpath
      exact ⟨authority, _, hauthority, hpath, parsePath_web path⟩
    case h_2 hscheme =>
      rw [kind, scheme_of_parseFile h, hscheme] at hweb
      nomatch hweb
    case h_3 hscheme =>
      rw [kind, scheme_of_parseOther h, hscheme] at hweb
      nomatch hweb

/-! ### Relative paths -/

theorem goUp_of_ne_file (hkind : kind ≠ .file) (reversed : List (List Char)) :
    goUp kind reversed = reversed.tail := by
  unfold goUp
  split
  case h_1 => rfl
  case h_2 only => simp [hkind]
  case h_3 before _ => rfl

/-- Whether a segment is no dot segment. -/
def IsPlain (segment : List Char) : Prop :=
  isDoubleDot segment = false ∧ isSingleDot segment = false

theorem appendSegment_of_isPlain (hkind : kind ≠ .file) (h : IsPlain segment) (isLast : Bool)
    (reversed : List (List Char)) :
    appendSegment kind isLast reversed segment = segment :: reversed := by
  simp [appendSegment, h.1, h.2, hkind]

theorem appendSegments_of_isPlain (hkind : kind ≠ .file) (h : ∀ segment ∈ segments, IsPlain segment)
    (reversed : List (List Char)) :
    appendSegments kind reversed segments = segments.reverse ++ reversed := by
  induction segments generalizing reversed with
  | nil => rfl
  | cons segment rest ih =>
    obtain ⟨hsegment, hrest⟩ := List.forall_mem_cons.mp h
    cases rest with
    | nil => exact appendSegment_of_isPlain hkind hsegment true reversed
    | cons next rest =>
      have hstep : appendSegments kind reversed (segment :: next :: rest)
          = appendSegments kind (appendSegment kind false reversed segment) (next :: rest) := rfl
      rw [hstep, appendSegment_of_isPlain hkind hsegment, ih hrest]
      simp only [List.reverse_cons, List.append_assoc, List.cons_append, List.nil_append]

theorem extendPath_of_isPlain (hkind : kind ≠ .file)
    (h : ∀ segment ∈ splitSegments kind text, IsPlain segment) (segments : List (List Char)) :
    extendPath kind segments text = segments ++ splitSegments kind text := by
  simp only [extendPath, hkind, ↓reduceIte]
  rw [appendSegments_of_isPlain hkind h, List.reverse_append, List.reverse_reverse,
    List.reverse_reverse]

/-- A plain relative path takes the place of the last segment. -/
theorem resolve_eq {base : Url} (hkind : base.kind ≠ .file) (hpath : base.path = .segments segments)
    (h : ∀ segment ∈ splitSegments base.kind text, IsPlain segment) :
    base.resolve text = .ok { base with
      path := .segments (segments.dropLast ++ splitSegments base.kind text)
      query := none
      fragment := none } := by
  have hfolder : (goUp base.kind segments.reverse).reverse = segments.dropLast := by
    rw [goUp_of_ne_file hkind, List.tail_reverse, List.reverse_reverse]
  rw [resolve, hpath]
  dsimp only
  rw [hfolder, extendPath_of_isPlain hkind h]

/-! ### The folder of an address -/

/-- The text of segments with a slash in front of each. -/
def slashed (segments : List (List Char)) : List Char :=
  segments.flatMap (fun segment => '/' :: segment)

theorem slashed_append (segments others : List (List Char)) :
    slashed (segments ++ others) = slashed segments ++ slashed others :=
  List.flatMap_append

theorem characters_of_segments {url : Url} {authority : Authority}
    (hauthority : url.authority = some authority) (hpath : url.path = .segments segments)
    (hquery : url.query = none) (hfragment : url.fragment = none) :
    url.characters = url.scheme ++ "://".toList ++ authority.text ++ slashed segments := by
  rw [characters, frontText, hauthority, hpath, hquery, hfragment, List.append_nil, List.append_nil]
  rfl

/-- A web address without query and fragment has a folder, up to its last slash.  A plain relative
path is appended to the folder. -/
theorem exists_folder {source : String} {base : Url} (hbase : parse source = .ok base)
    (hweb : base.kind = .web) (hquery : base.query = none) (hfragment : base.fragment = none) :
    ∃ folder last, base.characters = folder ++ last ∧ folder.getLast? = some '/' ∧ '/' ∉ last ∧
      ∀ {path : List Char}, (∀ segment ∈ splitSegments base.kind path, IsPlain segment) →
        slashed (splitSegments base.kind path) = '/' :: path →
        ∃ place, base.resolve path = .ok place ∧ place.query = none ∧
          place.characters = folder ++ path := by
  obtain ⟨authority, segments, hauthority, hpath, hne, hslashless⟩ :=
    exists_segments_of_parse hbase hweb
  obtain ⟨before, last, rfl⟩ : ∃ before last, segments = before ++ [last] :=
    ⟨segments.dropLast, segments.getLast hne, (List.dropLast_append_getLast hne).symm⟩
  have hlast : '/' ∉ last := hslashless last (List.mem_append_right _ (List.mem_singleton_self _))
  -- the folder ends with the slash in front of the last segment
  have hsplit : slashed [last] = '/' :: last := List.append_nil _
  have hfile : base.kind ≠ .file := by
    rw [hweb]
    decide
  refine ⟨base.scheme ++ "://".toList ++ authority.text ++ slashed before ++ ['/'], last, ?_,
    List.getLast?_concat, hlast, ?_⟩
  · rw [characters_of_segments hauthority hpath hquery hfragment, slashed_append, hsplit]
    simp only [List.append_assoc, List.singleton_append]
  · intro path hplain hwritten
    have hresolve := resolve_eq hfile hpath hplain
    rw [List.dropLast_concat] at hresolve
    refine ⟨_, hresolve, rfl, ?_⟩
    refine Eq.trans (characters_of_segments hauthority rfl rfl rfl) ?_
    rw [slashed_append, hwritten]
    simp only [List.append_assoc, List.singleton_append]

end ClusterCapacity.Url
