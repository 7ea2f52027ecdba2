import ClusterCapacity.Event
import ClusterCapacity.Json.Reader
import ClusterCapacity.Path
import ClusterCapacity.Source.Basic
import ClusterCapacity.Wire.Shape
import ClusterCapacity.Yaml.Reader

/-!
# Snapshot files as sources

A snapshot file holds the live and the lost workers of a cluster, as YAML when its extension is
`yaml` or `yml` and as JSON otherwise.  Queries are answered from it without asking anybody.
-/

namespace ClusterCapacity

namespace Snapshot

/-- Whether a snapshot at this path is written in YAML. -/
def isYamlPath (path : String) : Bool :=
  Path.extension? path = some "yaml" || Path.extension? path = some "yml"

/-- Decodes a snapshot in the format of its path. -/
def decode (path text : String) : Except Wire.DecodeError Snapshot :=
  if isYamlPath path then Yaml.decode shape text else Json.decode shape text

/-- The snapshot in a file. -/
def ofFile (path text : String) : Except SourceError Snapshot :=
  match decode path text with
  | .ok snapshot => .ok snapshot
  | .error error => .error (.malformed path error.message)

end Snapshot

/-- The source that reads a snapshot file for every query. -/
def Source.file {m : Type → Type} [Monad m] (log : Event → m Unit)
    (readText : String → ExceptT IoError m String) (path : String) : Source m where
  fetch query := do
    let text ← (readText path).adapt .io
    let snapshot ← liftM (Snapshot.ofFile path text)
    liftM (log (.loadedSnapshot snapshot.live.length snapshot.lost.length))
    return snapshot.select query

end ClusterCapacity
