import ClusterCapacity.IoError
import ClusterCapacity.Path

/-!
# Trees of files

The files of a machine as a value, from the root down.  A path is located component by component,
from the root or from a working directory; reading and writing then happen at the place that it
leads to, and fail where a file system would.
-/

namespace ClusterCapacity

/-- A file or a directory with named entries. -/
inductive FileNode where
  | file (bytes : List UInt8)
  | directory (entries : List (String × FileNode))
deriving Inhabited

namespace FileNode

/-- The greatest size of a component in bytes. -/
def greatestName : Nat := 255

/-! ### Places -/

/-- The node at the end of a list of names. -/
def at? (node : FileNode) : List String → Option FileNode
  | [] => some node
  | name :: rest =>
    match node with
    | file _ => none
    | directory entries => (entries.lookup name).bind (fun child => child.at? rest)

/-- The components of a path; an empty path has none. -/
def components? (path : String) : Option (List String) :=
  if path.isEmpty then none else some ((path.toList.splitOn '/').map String.ofList)

/-- Where a path begins, the last name first: at the root, or in the working directory with the
given names. -/
def origin (working : List String) (path : String) : List String :=
  if Path.isAbsolute path then [] else working.reverse

/-- Whether a component leads nowhere else. -/
def isIdle (name : String) : Bool := name = "" || name = "."

/-- Follows components from the place with the given names, the last one first, to a place that is
there.  Nothing lies above the root. -/
def locate (root : FileNode) (reached : List String) : List String → Except IoError (List String)
  | [] => .ok reached
  | name :: rest =>
    match root.at? reached.reverse with
    | some (directory entries) =>
      if isIdle name then locate root reached rest
      else if name = ".." then locate root reached.tail rest
      else if greatestName < name.utf8ByteSize then .error .nameTooLong
      else if (entries.lookup name).isSome then locate root (name :: reached) rest
      else .error .notFound
    | some (file _) => .error .notDirectory
    | none => .error .notFound

/-- The node that a path leads to from a working directory. -/
def find (root : FileNode) (working : List String) (path : String) :
    Except IoError FileNode := do
  match components? path with
  | none => .error .notFound
  | some names =>
    match root.at? (← root.locate (origin working path) names).reverse with
    | some node => .ok node
    | none => .error .notFound

/-! ### Reading -/

/-- The bytes of the file at a path. -/
def read (root : FileNode) (working : List String) (path : String) :
    Except IoError (List UInt8) := do
  match ← root.find working path with
  | file bytes => .ok bytes
  | directory _ => .error .isDirectory

/-- Whether there is a file at a path. -/
def isFile (root : FileNode) (working : List String) (path : String) : Bool :=
  match root.read working path with
  | .ok _ => true
  | .error _ => false

/-! ### Writing -/

/-- Replaces or appends an entry. -/
def setEntry (name : String) (node : FileNode) :
    List (String × FileNode) → List (String × FileNode)
  | [] => [(name, node)]
  | (other, old) :: rest =>
    if other = name then (name, node) :: rest else (other, old) :: setEntry name node rest

/-- Puts a node at the end of a list of names, making the directories on the way. -/
def put (node : FileNode) : List String → FileNode → FileNode
  | [], _ => node
  | name :: rest, directory entries =>
    directory (setEntry name (put node rest ((entries.lookup name).getD (directory []))) entries)
  | name :: rest, file _ => directory [(name, put node rest (directory []))]

/-- The place that a file can be written to: that of the file that is there, or a new one in a
directory that is.  The components are followed from the place with the names in `start`. -/
def writable (root : FileNode) (start names : List String) : Except IoError (List String) := do
  match names.getLast? with
  | none => .error .isDirectory
  | some last =>
    let parent ← root.locate start names.dropLast
    match root.at? parent.reverse with
    | some (directory entries) =>
      if isIdle last || last = ".." then .error .isDirectory
      else if greatestName < last.utf8ByteSize then .error .nameTooLong
      else
        match entries.lookup last with
        | some (directory _) => .error .isDirectory
        | _ => .ok (parent.reverse ++ [last])
    | some (file _) => .error .notDirectory
    | none => .error .notFound

/-- Whether a path names a directory by ending in a slash. -/
def endsInSlash (names : List String) : Bool := names.getLast? = some ""

/-- The components of a path without the slashes that it ends in. -/
def unslashed (names : List String) : List String :=
  if endsInSlash names then (names.reverse.dropWhile isIdle).reverse else names

/-- Puts a whole file at a path, which has to lie in a directory that is there. -/
def write (root : FileNode) (working : List String) (path : String) (bytes : List UInt8) :
    Except IoError FileNode := do
  match components? path with
  | none => .error .notFound
  | some names =>
    match root.writable (origin working path) (unslashed names) with
    | .error error => .error error
    | .ok place =>
      -- a new file cannot be named as a directory, whatever there is
      if endsInSlash names then
        .error (if (root.at? place).isSome then .notDirectory else .isDirectory)
      else .ok (put (file bytes) place root)

/-! ### Building -/

/-- The tree with the given nodes at their paths from the root. -/
def ofList (nodes : List (String × FileNode)) : FileNode :=
  nodes.foldl (fun root (path, node) =>
    put node (((components? path).getD []).filter (fun name => !isIdle name)) root) (directory [])

end FileNode

end ClusterCapacity
