import ClusterCapacity.Json.Basic
import ClusterCapacity.Report.Basic
import ClusterCapacity.Settings.Document
import ClusterCapacity.Settings.Place
import ClusterCapacity.Url.Parse

/-!
# Settings

The settings of a run are resolved from layers: the defaults, the settings file and what the command
line gives.  Each key has the value of the last layer that gives it, and only that value has to make
sense.
-/

namespace ClusterCapacity

/-- What a run works with. -/
structure Settings where
  /-- Where the settings file was looked for, unless that file says otherwise. -/
  directory : String
  masterUrl : Url
  /-- Read instead of asking the master. -/
  snapshot : Option String
  /-- How long the master may take, as it was written. -/
  timeout : String
  displayTiers : List String
  /-- Where the report is exported to. -/
  outputFile : Option String

/-- Why there are no settings. -/
inductive SettingsError where
  | file (path : String) (fault : Settings.FileFault)
  /-- A value of another kind than the one expected. -/
  | unexpected (found expected : String) (key origin : Option String)
  | invalidUrl (text : String) (error : Url.Error) (key : String)
deriving DecidableEq, Repr

namespace SettingsError

/-- A part of a message that is only there if there is something to tell. -/
def part (before : String) (text : Option String) (after : String) : String :=
  match text with
  | some text => before ++ text ++ after
  | none => ""

/-- What the user is told. -/
def message : SettingsError → String
  | file path fault => fault.message ++ " in " ++ path
  | unexpected found expected key origin =>
    "invalid type: " ++ found ++ ", expected " ++ expected ++ part " for key `" key "`"
      ++ part " in " origin ""
  | invalidUrl text error key =>
    "invalid value: string " ++ Text.quoted text ++ ", expected " ++ error.message
      ++ part " for key `" (some key) "`"

end SettingsError

namespace Settings

/-! ### Reading values -/

/-- A value by key; a key that is not given is empty. -/
def Tree.get (tree : Tree) (key : String) : Tree := (tree.entries.lookup key).getD (.null none)

/-- Reads a text, which any scalar is. -/
def readText (key : String) (value : Tree) : Except SettingsError String :=
  match value.scalarText? with
  | some text => .ok text
  | none => .error (.unexpected value.describe "a string" (some key) value.origin?)

/-- Reads a text that may be missing. -/
def readOptional (key : String) (value : Tree) : Except SettingsError (Option String) :=
  match value with
  | .null _ => .ok none
  | value => do return some (← readText key value)

/-- Reads a URL. -/
def readUrl (key : String) (value : Tree) : Except SettingsError Url := do
  let text ← readText key value
  match Url.parse text with
  | .ok url => return url
  | .error error => throw (.invalidUrl text error key)

/-- Reads texts from the item with the given index on. -/
def readItems (key : String) : Nat → List Tree → Except SettingsError (List String)
  | _, [] => .ok []
  | index, item :: rest => do
    let text ← readText (key ++ "[" ++ toString index ++ "]") item
    return text :: (← readItems key (index + 1) rest)

/-- Reads a list of texts. -/
def readList (key : String) (value : Tree) : Except SettingsError (List String) :=
  match value with
  | .list _ items => readItems key 0 items
  | value => .error (.unexpected value.describe "a sequence" (some key) none)

/-- Reads a path, which has to be written as a text. -/
def readPath (value : Tree) : Except SettingsError String :=
  match value with
  | .text text => .ok text
  | value => .error (.unexpected value.describe "path string" none none)

/-- The settings in a table of them. -/
def ofTree (tree : Tree) : Except SettingsError Settings := do
  return {
    masterUrl := ← readUrl "master_url" (tree.get "master_url")
    snapshot := ← readOptional "snapshot" (tree.get "snapshot")
    timeout := ← readText "timeout" (tree.get "timeout")
    displayTiers := ← readList "display_tiers" (tree.get "display_tiers")
    outputFile := ← readOptional "output_file" (tree.get "output_file")
    directory := ← readPath (tree.get "config_dir") }

/-! ### Layers -/

/-- Where the settings file is looked for counts as a setting. -/
def directoryLayer (directory : String) : Layer := [("config_dir", .text directory)]

/-- The settings that nobody has to give. -/
def defaults : Layer := [
  ("master_url", .text "http://localhost:19999"),
  ("timeout", .text "30s"),
  ("display_tiers", .list none (defaultDisplayTiers.map .text))]

/-- What the command line says about settings. -/
structure Overrides where
  masterUrl : Option String := none
  snapshot : Option String := none
  timeout : Option String := none
  outputFile : Option String := none
deriving DecidableEq, Repr

/-- A setting that is given or not. -/
def given (key : String) (value : Option String) : Layer :=
  match value with
  | some value => [(key, .text value)]
  | none => []

/-- The layer of what the command line says. -/
def Overrides.layer (overrides : Overrides) : Layer :=
  given "master_url" overrides.masterUrl ++ given "snapshot" overrides.snapshot
    ++ given "timeout" overrides.timeout ++ given "output_file" overrides.outputFile

/-- The settings of a run: defaults, then the settings file, then the command line. -/
def resolve (directory : String) (file : Layer) (overrides : Overrides) :
    Except SettingsError Settings :=
  ofTree (Layer.merge [directoryLayer directory, defaults, file, overrides.layer])

/-! ### Documents -/

/-- A text that may be missing as JSON. -/
def optionalText (text : Option String) : Json :=
  match text with
  | some text => .str text
  | none => .null

/-- The settings as an object, without their directory. -/
def toJson (settings : Settings) : Json := .obj [
  ("master_url", .str settings.masterUrl.text),
  ("snapshot", optionalText settings.snapshot),
  ("timeout", .str settings.timeout),
  ("display_tiers", .arr (settings.displayTiers.map .str)),
  ("output_file", optionalText settings.outputFile)]

end Settings

end ClusterCapacity
