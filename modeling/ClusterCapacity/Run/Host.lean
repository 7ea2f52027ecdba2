import ClusterCapacity.Duration
import ClusterCapacity.Path
import ClusterCapacity.Settings.Basic
import ClusterCapacity.Source.Master
import ClusterCapacity.Text.Lossy

/-!
# Hosts

What a run can ask of the machine that it works on: files, the answers of masters and the time.
-/

namespace ClusterCapacity

/-- The machine that a run works on. -/
structure Host (m : Type → Type) where
  /-- The working directory. -/
  directory : m String
  isFile : String → m Bool
  read : String → ExceptT IoError m (List UInt8)
  /-- Puts a whole file in place, or fails. -/
  write : String → List UInt8 → ExceptT IoError m Unit
  /-- Whether the machine can send requests that wait no longer than the given time. -/
  canAsk : Duration → m Bool
  /-- Asks at a URL and waits no longer than the given time for the answer. -/
  send : Duration → Url → m (Option Response)
  /-- The time as it is written into an export. -/
  now : m String

namespace Host

variable {m : Type → Type} [Monad m]

/-- The text in a file. -/
def readText (host : Host m) (path : String) : ExceptT IoError m String := do
  match String.fromUTF8? (← host.read path).toByteArray with
  | some text => return text
  | none => throw .notText

/-- The first of some paths that leads to a file. -/
def firstFile? (host : Host m) : List String → m (Option String)
  | [] => return none
  | path :: rest => do
    if ← host.isFile path then return some path else host.firstFile? rest

end Host

/-! ### Settings files -/

namespace Settings

/-- The name of the settings file. -/
def fileName : String := "config.yaml"

/-- Where the settings file may be, the better place first. -/
def filePaths (directory : String) : List String :=
  let path := Path.join directory fileName
  [path, path ++ ".yaml", path ++ ".yml"]

/-- The bytes of a text file without the mark that may stand in front of it. -/
def withoutMark : List UInt8 → List UInt8
  | 0xEF :: 0xBB :: 0xBF :: rest => rest
  | bytes => bytes

variable {m : Type → Type} [Monad m]

/-- The layer of the settings file, which is empty if there is no such file. -/
def fileLayer (host : Host m) (directory : String) : ExceptT SettingsError m Layer := do
  match ← host.firstFile? (filePaths directory) with
  | none => return []
  | some path =>
    match ← (host.read path).run with
    | .error _ => return []
    | .ok bytes =>
      let shown := Path.shownFrom (← liftM host.directory) path
      match Layer.ofText shown (Text.lossy (withoutMark bytes)) with
      | .ok layer => return layer
      | .error fault => throw (.file shown fault)

/-- The settings of a run whose settings file is in the given directory. -/
def load (host : Host m) (directory : String) (overrides : Overrides) :
    ExceptT SettingsError m Settings := do
  let file ← fileLayer host directory
  liftM (resolve directory file overrides)

end Settings

end ClusterCapacity
