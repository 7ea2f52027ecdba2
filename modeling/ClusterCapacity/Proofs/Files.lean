import ClusterCapacity.Files
import Mathlib.Data.List.Basic
import Mathlib.Tactic.SplitIfs

/-!
# Reading back what was written

A file that was written is read back under the same path (`FileNode.read_write`).  Writing puts a
file where none or another file was, so no directory goes away and none loses an entry
(`exists_directory_put`), and a path that led somewhere before still leads there (`locate_put`).
-/

namespace ClusterCapacity.FileNode

/-! ### Entries -/

theorem lookup_setEntry_self (name : String) (node : FileNode)
    (entries : List (String × FileNode)) :
    (setEntry name node entries).lookup name = some node := by
  induction entries with
  | nil => rw [setEntry, List.lookup_cons_self]
  | cons entry rest ih =>
    obtain ⟨other, old⟩ := entry
    rw [setEntry]
    split
    · rw [List.lookup_cons_self]
    · rename_i hne
      rw [List.lookup_cons, beq_false_of_ne (Ne.symm hne), ih]

/-- Setting an entry does not show under another name. -/
theorem lookup_setEntry_of_ne {name other : String} (h : other ≠ name) (node : FileNode)
    (entries : List (String × FileNode)) :
    (setEntry name node entries).lookup other = entries.lookup other := by
  induction entries with
  | nil => rw [setEntry, List.lookup_cons, beq_false_of_ne h]
  | cons entry rest ih =>
    obtain ⟨first, old⟩ := entry
    rw [setEntry]
    split
    · rename_i heq
      subst heq
      rw [List.lookup_cons, List.lookup_cons, beq_false_of_ne h]
    · rw [List.lookup_cons, List.lookup_cons, ih]

/-! ### Places -/

theorem at?_append (root : FileNode) (names others : List String) :
    root.at? (names ++ others) = (root.at? names).bind (fun node => node.at? others) := by
  induction names generalizing root with
  | nil => rfl
  | cons name rest ih =>
    cases root with
    | file bytes => rfl
    | directory entries =>
      rw [List.cons_append, at?, at?]
      cases entries.lookup name with
      | none => rfl
      | some child => exact ih child

/-- A node is found where it was put. -/
theorem at?_put (node root : FileNode) (names : List String) :
    (put node names root).at? names = some node := by
  induction names generalizing root with
  | nil => rw [put, at?]
  | cons name rest ih =>
    cases root with
    | file bytes => rw [put, at?, List.lookup_cons_self, Option.bind_some, ih]
    | directory entries => rw [put, at?, lookup_setEntry_self, Option.bind_some, ih]

/-- Putting a node where no directory is keeps every directory and its entries. -/
theorem exists_directory_put (node : FileNode) {root : FileNode} {place names : List String}
    {entries : List (String × FileNode)} (hplace : ∀ old, root.at? place ≠ some (directory old))
    (h : root.at? names = some (directory entries)) :
    ∃ others, (put node place root).at? names = some (directory others) ∧
      ∀ name, (entries.lookup name).isSome → (others.lookup name).isSome := by
  -- the names and the place are followed down the tree together, until they part
  induction names generalizing root place with
  | nil =>
    rw [at?, Option.some.injEq] at h
    subst h
    cases place with
    | nil => exact absurd rfl (hplace entries)
    | cons first rest =>
      refine ⟨_, rfl, ?_⟩
      intro name hname
      by_cases heq : name = first
      · rw [heq, lookup_setEntry_self]
        rfl
      · rwa [lookup_setEntry_of_ne heq]
  | cons name rest ih =>
    cases root with
    | file bytes => exact absurd h (by simp [at?])
    | directory held =>
      rw [at?] at h
      obtain ⟨child, hchild, hrest⟩ := Option.bind_eq_some_iff.mp h
      cases place with
      | nil => exact absurd rfl (hplace held)
      | cons first others =>
        rw [put, at?]
        by_cases heq : name = first
        · -- the node goes below the directory that the names lead through
          subst heq
          rw [lookup_setEntry_self, hchild, Option.bind_some, Option.getD_some]
          apply ih _ hrest
          intro old
          have hold := hplace old
          rwa [at?, hchild, Option.bind_some] at hold
        · rw [lookup_setEntry_of_ne heq, hchild, Option.bind_some]
          exact ⟨entries, hrest, fun _ => id⟩

/-! ### Following a path -/

theorem locate_append (root : FileNode) (reached names others : List String) :
    root.locate reached (names ++ others)
      = (root.locate reached names >>= fun place => root.locate place others) := by
  induction names generalizing reached with
  | nil => rfl
  | cons name rest ih =>
    rw [List.cons_append, locate, locate]
    split
    · split_ifs <;> first
        | exact ih _
        | rfl
    · rfl
    · rfl

/-- A path that leads somewhere still leads there when a node is put where no directory is. -/
theorem locate_put {node root : FileNode} {place reached names target : List String}
    (hplace : ∀ old, root.at? place ≠ some (directory old))
    (h : root.locate reached names = .ok target) :
    (put node place root).locate reached names = .ok target := by
  induction names generalizing reached with
  | nil => exact h
  | cons name rest ih =>
    rw [locate] at h ⊢
    split at h
    · rename_i entries hentries
      obtain ⟨others, hothers, hkept⟩ := exists_directory_put node hplace hentries
      rw [hothers]
      split_ifs at h with hidle hup hlong hentry
      · exact (if_pos hidle).trans (ih h)
      · exact (if_neg hidle).trans ((if_pos hup).trans (ih h))
      · have hother := hkept name hentry
        simp only [hidle, hup, hlong, hother, ↓reduceIte, Bool.false_eq_true]
        exact ih h
    · exact absurd h (by simp)
    · exact absurd h (by simp)

/-! ### Files -/

/-- What a place that can be written to is: the last name follows a directory, in which it is no
directory. -/
theorem exists_of_writable {root : FileNode} {start names place : List String}
    (h : root.writable start names = .ok place) :
    ∃ parent last entries, names = names.dropLast ++ [last] ∧
      root.locate start names.dropLast = .ok parent ∧
      root.at? parent.reverse = some (directory entries) ∧
      isIdle last = false ∧ last ≠ ".." ∧ last.utf8ByteSize ≤ greatestName ∧
      (∀ old, entries.lookup last ≠ some (directory old)) ∧ place = parent.reverse ++ [last] := by
  rw [writable] at h
  split at h
  · exact absurd h (by simp)
  · rename_i last hlast
    cases hparent : root.locate start names.dropLast with
    | error error =>
      rw [hparent] at h
      exact absurd h nofun
    | ok parent =>
      simp only [hparent, bind, Except.bind] at h
      split at h
      · rename_i entries hentries
        split_ifs at h with hleads hlong
        obtain ⟨hidle, hup⟩ : isIdle last = false ∧ last ≠ ".." := by
          simpa only [Bool.or_eq_true, not_or, Bool.not_eq_true, decide_eq_true_eq] using hleads
        split at h
        · exact absurd h nofun
        · rename_i hfree
          exact ⟨parent, last, entries, (List.dropLast_append_getLast? last hlast).symm, rfl,
            hentries, hidle, hup, Nat.le_of_not_lt hlong, fun old => hfree old,
            (Except.ok.inj h).symm⟩
      · exact absurd h nofun
      · exact absurd h nofun

/-- Where a file is put, or why it cannot be put there, has nothing to do with its bytes. -/
theorem exists_write_eq (root : FileNode) (working : List String) (path : String) :
    ∃ place : Except IoError (List String), ∀ bytes,
      root.write working path bytes = place.map (fun names => put (file bytes) names root) := by
  unfold write
  cases components? path with
  | none => exact ⟨.error .notFound, fun _ => rfl⟩
  | some names =>
    dsimp only
    split
    · rename_i error _
      exact ⟨.error error, fun _ => rfl⟩
    · rename_i place _
      split
      · exact ⟨.error _, fun _ => rfl⟩
      · exact ⟨.ok place, fun _ => rfl⟩

/-- The bytes of a file that was written are read back. -/
theorem read_write {root after : FileNode} {working : List String} {path : String}
    {bytes : List UInt8} (h : root.write working path bytes = .ok after) :
    after.read working path = .ok bytes := by
  unfold write at h
  split at h
  · exact absurd h nofun
  · rename_i names hnames
    split at h
    · exact absurd h nofun
    · rename_i place hplace
      split_ifs at h with hslash
      rw [unslashed, if_neg hslash] at hplace
      obtain ⟨parent, last, entries, hsplit, hparent, hentries, hidle, hup, hlong, hfree, rfl⟩ :=
        exists_of_writable hplace
      obtain rfl := Except.ok.inj h
      have hnone : ∀ old, root.at? (parent.reverse ++ [last]) ≠ some (directory old) := by
        intro old
        rw [at?_append, hentries]
        show (entries.lookup last).bind some ≠ _
        rw [Option.bind_fun_some]
        exact hfree old
      -- the path leads to the same directory as before, and from there to the new file
      have hreached : (put (file bytes) (parent.reverse ++ [last]) root).locate
          (origin working path) names = .ok (last :: parent) := by
        obtain ⟨others, hothers, -⟩ := exists_directory_put (file bytes) hnone hentries
        have hput := at?_put (file bytes) root (parent.reverse ++ [last])
        rw [at?_append, hothers] at hput
        change (others.lookup last).bind some = _ at hput
        rw [Option.bind_fun_some] at hput
        rw [hsplit, locate_append, locate_put hnone hparent]
        show locate _ parent [last] = _
        rw [locate, hothers]
        simp only [hidle, hup, Nat.not_lt.mpr hlong, hput, ↓reduceIte, Bool.false_eq_true,
          Option.isSome_some, locate]
      simp only [read, find, hnames, hreached, bind, Except.bind, List.reverse_cons, at?_put]

end ClusterCapacity.FileNode
