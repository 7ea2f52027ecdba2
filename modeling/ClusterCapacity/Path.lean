/-!
# Paths

A path names a file by components between slashes.  The extension of a file name is what follows
its last dot, unless that dot is its first character.
-/

namespace ClusterCapacity.Path

/-- The components of a path, without those that stay in place. -/
def components (path : String) : List (List Char) :=
  (path.toList.splitOn '/').filter (fun name => !(name.isEmpty || name = ['.']))

/-- The name of the file that a path leads to, if it does not end by going up. -/
def fileName? (path : String) : Option (List Char) :=
  (components path).getLast?.filter (fun name => name ≠ ['.', '.'])

/-- The extension of a file name. -/
def extensionOf? (name : List Char) : Option (List Char) :=
  let reversed := name.reverse
  match reversed.dropWhile (· ≠ '.') with
  | [] => none
  | [_] => none
  | _ => some (reversed.takeWhile (· ≠ '.')).reverse

/-- The extension of the file that a path leads to. -/
def extension? (path : String) : Option String :=
  ((fileName? path).bind extensionOf?).map String.ofList

/-- The path of a file in a directory. -/
def join (directory name : String) : String :=
  if directory.isEmpty || directory.toList.getLast? = some '/' then directory ++ name
  else directory ++ "/" ++ name

/-- Whether a path begins at the root of the file system. -/
def isAbsolute (path : String) : Bool := path.toList.head? = some '/'

/-- The components after those that two lists have in common, going up first from what is left of
the second list. -/
def relativeComponents : List (List Char) → List (List Char) → List (List Char)
  | first :: rest, other :: others =>
    if first = other then relativeComponents rest others
    else (other :: others).map (fun _ => ['.', '.']) ++ first :: rest
  | names, others => others.map (fun _ => ['.', '.']) ++ names

/-- How a path is shown to someone in the given directory, which is absolute. -/
def shownFrom (directory path : String) : String :=
  let names :=
    if isAbsolute path then relativeComponents (components path) (components directory)
    else components path
  "/".intercalate (names.map String.ofList)

end ClusterCapacity.Path
