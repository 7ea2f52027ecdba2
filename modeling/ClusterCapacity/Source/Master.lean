import ClusterCapacity.Event
import ClusterCapacity.Json.Bytes
import ClusterCapacity.Source.Basic
import ClusterCapacity.Url.Form
import ClusterCapacity.Url.Parse
import ClusterCapacity.Wire.Shape

/-!
# A cluster's master as a source

The master is asked over HTTP for its worker report, with the query in the URL.  It answers with the
list of the workers in JSON and does the choosing itself.
-/

namespace ClusterCapacity

/-! ### The request -/

/-- The place of the worker report below the URL of a master. -/
def reportPath : List Char := "api/v1/master/worker_report".toList

/-- The pairs that a query becomes: addresses only if there are any. -/
def Query.pairs (query : Query) : List (List Char × List Char) :=
  [("range".toList, query.range.queryName.toList),
    ("fields".toList, (",".intercalate (query.facts.map WorkerFact.name)).toList)]
  ++ (if query.addresses.isEmpty then []
    else [("addresses".toList, (Addresses.joined query.addresses).toList)])

/-- The URL of a worker report. -/
def Query.url (query : Query) (master : Url) : Except SourceError Url :=
  match master.resolve reportPath with
  | .ok place => .ok { place with query := some (Url.Form.encode query.pairs) }
  | .error error => .error (.url error)

/-- The URL of a master, as it is written in the settings. -/
def masterUrl (text : String) : Except SourceError Url :=
  match Url.parse text with
  | .ok url => .ok url
  | .error error => .error (.url error)

/-! ### The answer -/

/-- What a master answers; there is no body if it did not come as a whole. -/
structure Response where
  status : Nat
  body : Option (List UInt8)
deriving DecidableEq, Repr

/-- Whether the answer brings what was asked for. -/
def Response.isSuccess (response : Response) : Bool :=
  200 ≤ response.status && response.status < 300

/-- What the answer holds; one that announces to be without content is empty. -/
def Response.content? (response : Response) : Option (List UInt8) :=
  if response.status = 204 then some [] else response.body

/-- The workers in an answer to a request for `url`. -/
def Response.workers (url : Url) (response : Response) : Except SourceError (List Worker) :=
  if response.isSuccess then
    match response.content?.bind (Json.decodeBytes? Worker.listShape) with
    | some workers => .ok workers
    | none => .error (.request .malformedAnswer)
  else .error (.status response.status url.text)

/-- Whether a server can be asked for what is at a URL. -/
def Url.canBeAsked (url : Url) : Bool :=
  url.scheme = "http".toList || url.scheme = "https".toList

/-- Asks at a URL, with a way of sending a request that may bring no answer; the user is not told
the name and password in the URL. -/
def Url.ask {m : Type → Type} [Monad m] (send : Url → m (Option Response)) (url : Url) :
    ExceptT RequestError m Response := do
  if url.canBeAsked then
    match ← send url with
    | some response => return response
    | none => throw (.noAnswer url.withoutUserinfo.text)
  else throw (.cannotAsk url.withoutUserinfo.text)

/-- The source that asks a master for every query, with the given way of sending a request. -/
def Source.master {m : Type → Type} [Monad m] (log : Event → m Unit)
    (send : Url → m (Option Response)) (master : Url) : Source m where
  fetch query := do
    let url ← liftM (query.url master)
    liftM (log (.requestingWorkers url.text))
    let response ← (url.ask send).adapt .request
    let workers ← liftM (response.workers url)
    liftM (log (.receivedWorkers workers.length))
    return workers

end ClusterCapacity
