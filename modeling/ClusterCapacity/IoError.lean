/-!
# Failed input and output

The ways in which reading a file or writing to a sink fails.
-/

namespace ClusterCapacity

/-- Why reading or writing failed. -/
inductive IoError where
  | notFound
  | permissionDenied
  | notDirectory
  | isDirectory
  | nameTooLong
  /-- A text file holds other bytes than text. -/
  | notText
  /-- A sink took nothing of what was offered. -/
  | nothingWritten
  | other (message : String)
deriving DecidableEq, Repr, Inhabited

/-- What the user is told. -/
def IoError.message : IoError → String
  | notFound => "No such file or directory (os error 2)"
  | permissionDenied => "Permission denied (os error 13)"
  | notDirectory => "Not a directory (os error 20)"
  | isDirectory => "Is a directory (os error 21)"
  | nameTooLong => "File name too long (os error 36)"
  | notText => "stream did not contain valid UTF-8"
  | nothingWritten => "failed to write whole buffer"
  | other message => message

end ClusterCapacity
