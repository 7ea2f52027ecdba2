import ClusterCapacity.IoError
import ClusterCapacity.Text.Quoted
import ClusterCapacity.Url.Error
import ClusterCapacity.Worker

/-!
# Sources of workers

A source is asked for the workers of a query and hands them over in its own order, or says why it
cannot.
-/

namespace ClusterCapacity

/-- Why a request to a master brought no answer that could be used. -/
inductive RequestError where
  /-- The address is not one that can be asked. -/
  | cannotAsk (url : String)
  /-- Nobody answered at the address. -/
  | noAnswer (url : String)
  /-- No request can be sent at all. -/
  | cannotSend
  /-- What the answer holds is no list of workers, or did not come as a whole. -/
  | malformedAnswer
deriving DecidableEq, Repr

/-- What the user is told. -/
def RequestError.message : RequestError → String
  | cannotAsk url => "builder error for url (" ++ url ++ ")"
  | noAnswer url => "error sending request for url (" ++ url ++ ")"
  | cannotSend => "builder error"
  | malformedAnswer => "error decoding response body"

/-- Why a source delivered no workers. -/
inductive SourceError where
  | io (error : IoError)
  | request (error : RequestError)
  /-- The master answered with a status that is no success. -/
  | status (status : Nat) (url : String)
  | malformed (path : String) (message : String)
  | url (error : Url.Error)
deriving DecidableEq, Repr

/-- What the user is told. -/
def SourceError.message : SourceError → String
  | io error => "Reading worker records failed: " ++ error.message
  | request error => "Requesting the worker report failed: " ++ error.message
  | .status code address => "The master answered " ++ toString code ++ " for " ++ address
  | malformed path message =>
    "Worker records in " ++ Text.quoted path ++ " are malformed: " ++ message
  | url error => "Invalid master URL: " ++ error.message

/-- What lies behind the error, the nearest cause first. -/
def SourceError.causes : SourceError → List String
  | io error => [error.message]
  | request error => [error.message]
  | .url error => [error.message]
  | _ => []

/-- A place that workers are fetched from. -/
structure Source (m : Type → Type) where
  fetch : Query → ExceptT SourceError m (List Worker)

end ClusterCapacity
