import ClusterCapacity.Program.Basic
import ClusterCapacity.Source.Exchange
import ClusterCapacity.Timestamp
import Std.Async.DNS
import Std.Async.TCP
import Std.Async.Timer

/-!
# The command line program

The program on a real machine: files, sockets, the clock and the standard streams.
-/

namespace ClusterCapacity.Console

open Std.Async

/-! ### Files -/

/-- The library's name for a failure of the machine. -/
def ioError : IO.Error → IoError
  | .noFileOrDirectory _ _ _ => .notFound
  | .permissionDenied _ _ _ => .permissionDenied
  | .inappropriateType _ code _ => if code = 20 then .notDirectory else .isDirectory
  | .invalidArgument _ code details =>
    if code = 36 then .nameTooLong else .other (details ++ " (os error " ++ toString code ++ ")")
  | error => .other (toString error)

/-- Runs an action that may fail. -/
def attempt {α : Type} (action : IO α) : ExceptT IoError IO α := do
  match ← action.toBaseIO with
  | .ok value => return value
  | .error error => throw (ioError error)

/-- Whether there is a file at a path. -/
def isFile (path : String) : IO Bool := do
  match ← (IO.FS.readBinFile path).toBaseIO with
  | .ok _ => return true
  | .error _ => return false

/-! ### Sockets -/

/-- The addresses of a host. -/
def addresses (host : Url.Host) : Async (List Std.Net.IPAddr) := do
  match host with
  | .name name => return (← DNS.getAddrInfo (String.ofList name) "").toList
  | .ipv4 address =>
    let octet (shift : Nat) : UInt8 := UInt8.ofNat (address / Nat.pow 2 shift)
    return [.v4 ⟨#v[octet 24, octet 16, octet 8, octet 0]⟩]
  | .ipv6 pieces =>
    let piece (index : Nat) : UInt16 := UInt16.ofNat (pieces[index]?.getD 0)
    return [.v6 ⟨#v[piece 0, piece 1, piece 2, piece 3, piece 4, piece 5, piece 6, piece 7]⟩]

/-- An address with a port. -/
def socketAddress (port : UInt16) : Std.Net.IPAddr → Std.Net.SocketAddress
  | .v4 address => .v4 ⟨address, port⟩
  | .v6 address => .v6 ⟨address, port⟩

/-- Receives until the bytes so far are enough or no more come. -/
partial def receive {α : Type} (client : TCP.Socket.Client)
    (take? : Bool → List UInt8 → Option α) (bytes : List UInt8) : Async (Option α) := do
  match take? false bytes with
  | some taken => return some taken
  | none =>
    match ← client.recv? 65536 with
    | none => return take? true bytes
    | some more => receive client take? (bytes ++ more.toList)

/-- Asks at the first of some addresses that can be reached, and receives what stands above the
content of the answer. -/
def askFirst (url : Url) (port : UInt16) : List Std.Net.IPAddr →
    Async (Option (TCP.Socket.Client × Exchange.Head × List UInt8))
  | [] => return none
  | address :: rest => do
    try
      let client ← TCP.Socket.Client.mk
      client.connect (socketAddress port address)
      client.send (Exchange.requestText url).toUTF8
      return (← receive client (fun _ => Exchange.head?) []).map (client, ·)
    catch _ => askFirst url port rest

/-- Asks at a URL. -/
def ask (url : Url) : Async (Option (TCP.Socket.Client × Exchange.Head × List UInt8)) := do
  match url.authority with
  | some authority =>
    let port := authority.port.getD ((Url.defaultPort? url.scheme).getD 80)
    askFirst url (UInt16.ofNat port) (← addresses authority.host)
  | none => return none

/-- Waits no longer than the given time. -/
def within {α : Type} (timeout : Duration) (action : Async (Option α)) : IO (Option α) := do
  let milliseconds := timeout.seconds * 1000 + timeout.nanoseconds / 1000000
  let waiting : Async (Option α) := do
    sleep (.ofNat milliseconds)
    return none
  match ← (Async.block (Async.race action waiting)).toBaseIO with
  | .ok result => return result
  | .error _ => return none

/-- Asks at a URL and waits no longer than the given time for the status, and no longer than that
for the content, which only a success has to bring. -/
def send (timeout : Duration) (url : Url) : IO (Option Response) := do
  if url.scheme = "https".toList then return none
  match ← within timeout (ask url) with
  | none => return none
  | some (client, head, rest) =>
    let response : Response := ⟨head.status, none⟩
    if !response.isSuccess then return some response
    let content ← within timeout (receive client head.content? rest)
    return some { response with body := content }

/-! ### The machine -/

/-- The time. -/
def now : IO String := do
  let time := (← Std.Time.Timestamp.now).toNanosecondsSinceUnixEpoch.val.toNat
  return (Timestamp.mk (time / 1000000000) (time % 1000000000)).text

/-- The machine that the program runs on. -/
def host : Host IO where
  directory := do return (← IO.currentDir).toString
  isFile := isFile
  read path := attempt (do return (← IO.FS.readBinFile path).toList)
  write path bytes := attempt (IO.FS.writeBinFile path bytes.toByteArray)
  canAsk _ := return true
  send := send
  now := now

/-- The standard output as a sink. -/
def output (stream : IO.FS.Stream) : Sink IO where
  write offered := attempt (do
    stream.write offered.toByteArray
    return offered.length)
  flush := attempt stream.flush

/-- The environment variables that the program looks at. -/
def environment : IO Program.Environment := do
  let names := CommandLine.Flag.every.filterMap CommandLine.Flag.variableName?
    ++ [Program.directoryVariable, Program.filterVariable, "XDG_CONFIG_HOME", "HOME"]
  let values ← names.mapM (fun name => (IO.getEnv name : IO (Option String)))
  return (names.zip values).filterMap (fun (name, value) => value.map (fun value => (name, value)))

end ClusterCapacity.Console

/-- Runs the program. -/
def main (words : List String) : IO UInt32 := do
  let errors ← IO.getStderr
  let console : ClusterCapacity.Program.Console IO :=
    ⟨ClusterCapacity.Console.output (← IO.getStdout), errors.putStr⟩
  ClusterCapacity.Program.run ClusterCapacity.Console.host console ClusterCapacity.Logging.standard
    (← ClusterCapacity.Console.environment) words
