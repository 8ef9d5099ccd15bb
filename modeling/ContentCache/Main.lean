import ContentCache.CommandLine
import ContentCache.Http.Wire
import Std.Async.DNS
import Std.Async.TCP
import Std.Async.Timer

/-!
# The program on a machine

The program is run against the answers that have been got so far. When it needs one more, the request
is sent over the network, its answer is added, and the program is run again from the start; the run
that needs no more answers is the one that counts. Its output, its narration and its report are
written at the end.
-/

namespace ContentCache.Machine

open Std.Async

/-! ## The network -/

/-- Reads a connection to its end. -/
partial def receiveAll (socket : TCP.Socket.Client) (got : ByteArray) : Async ByteArray := do
  match ← socket.recv? 65536 with
  | some more => receiveAll socket (got ++ more)
  | none => pure got

/-- The address of a host and a port. -/
def address (host : String) (port : Nat) : Async (Option Std.Net.SocketAddress) := do
  let found ← DNS.getAddrInfo host (toString port)
  pure (found[0]?.map fun
    | .v4 a => .v4 ⟨a, UInt16.ofNat port⟩
    | .v6 a => .v6 ⟨a, UInt16.ofNat port⟩)

/-- The name of a host for the lookup of its address, without the brackets of an address. -/
def lookupName (host : String) : String :=
  String.ofList (host.toList.filter fun c => c ≠ '[' && c ≠ ']')

/-- Sends a request over a connection of its own and reads what comes back. -/
def converse (r : Http.Request) : Async (Option Http.Reply) := do
  let host := lookupName (r.url.hostText.getD "")
  match ← address host ((Http.connectionPort r.url).getD 80) with
  | none => pure none
  | some a => do
    let socket ← TCP.Socket.Client.mk
    socket.connect a
    socket.send ⟨r.wire.toArray⟩
    pure (Http.Reply.ofWire? (← receiveAll socket .empty).data.toList)

/-- What a server does about a request, as far as it shows within a limit of milliseconds. -/
def answer (limit : Nat) (r : Http.Request) : IO Http.Answer := do
  let start ← IO.monoNanosNow
  let conversation : Async (Option Http.Answer) := do
    match ← converse r with
    | some reply => do
      let stop ← IO.monoNanosNow
      pure (some (.reply ⟨stop - start⟩ reply))
    | none => pure (some .dropped)
  let patience : Async (Option Http.Answer) := do
    sleep (.ofNat limit)
    pure (some .hangs)
  try
    pure ((← (Async.race conversation patience).block).getD .dropped)
  catch _ => pure .dropped

/-! ## Files -/

def withFile (files : Files) (path : String) : IO Files := do
  try
    pure (files.putWithin path (.content (← IO.FS.readBinFile path).data.toList))
  catch _ => pure files

/-- Adds a directory, if files can be made in it. -/
def withDirectory (files : Files) (path : String) : IO Files := do
  let probe := path ++ "/.spool"
  try
    IO.FS.writeBinFile probe .empty
    IO.FS.removeFile probe
    pure (files.putWithin path .directory)
  catch _ => pure files

/-- The files that the program may read, and the milliseconds that a request may take. -/
def surroundings (a : CommandLine.Arguments) : IO (Files × Nat) := do
  let files ← withFile .empty a.config
  match Config.load files a.config with
  | .error _ => pure (files, 0)
  | .ok c => do
    let files ← match c.tokenFile with
      | some path => withFile files path
      | none => pure files
    let files ← match c.spoolDirectory with
      | some path => withDirectory files path
      | none => pure files
    pure (files, 1000 * min c.requestSeconds (a.timeout.getD c.requestSeconds))

/-! ## Running -/

/-- Waits until so much time has passed since the start. -/
def waitUntil (start : Nat) (moment : Time.Span) : IO Unit := do
  let passed := (← IO.monoNanosNow) - start
  IO.sleep (UInt32.ofNat ((moment.nanoseconds - passed) / 1000000))

/-- Runs the program with the answers so far, getting more as long as it needs them. -/
partial def drive (arguments : List String) (token : Option String) (limit start : Nat) (w : World)
    (answers : List Http.Answer) : IO (CommandLine.Outcome × Journal) := do
  let (o, j) := CommandLine.run arguments token { w with server := .ofAnswers answers } {}
  match j.exchanges[answers.length]? with
  | none => pure (o, j)
  | some e => do
    waitUntil start e.moment
    drive arguments token limit start w (answers ++ [← answer limit e.request])

def now : IO Time.Instant := do
  let t ← Std.Time.Timestamp.now
  pure ((Time.Instant.ofNanosecondsSinceEpoch? t.toNanosecondsSinceUnixEpoch.val).getD .epoch)

/-- The lines that tell how the program ended. -/
def reportLines : CommandLine.Ending → List String
  | .success => []
  | .failure e => e.report
  | .misuse e => [e.message]

/-- Runs the program and writes what it has to say. -/
def perform (arguments : List String) : IO UInt32 := do
  let token ← IO.getEnv "STOWAGE_TOKEN"
  let (files, limit) ← match CommandLine.Request.ofArguments arguments token with
    | .ok (.fetch a) => surroundings a
    | _ => pure (.empty, 0)
  let w : World := { server := .ofAnswers [], files, clock := ← now }
  let (o, j) ← drive arguments token limit (← IO.monoNanosNow) w []
  let errors ← IO.getStderr
  for e in j.events do errors.putStrLn e.text
  let output ← IO.getStdout
  output.write ⟨o.output.toArray⟩
  output.flush
  for line in reportLines o.ending do errors.putStrLn line
  pure (UInt32.ofNat o.ending.code)

end ContentCache.Machine

def main (arguments : List String) : IO UInt32 := ContentCache.Machine.perform arguments
