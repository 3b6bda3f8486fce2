import PathPolicy.CommandLine
import PathPolicy.Service

/-!
# The daemon on standard streams

Reads the command line and the configuration, and then serves the client at the other end of
standard input and output until it has nothing more to say. The log goes to standard error.
-/

namespace PathPolicy

def usage : String := "Usage: panpolicyd [OPTIONS]

Options:
  -c, --config <CONFIG>  Configuration file path (TOML)
  -s, --socket <SOCKET>  Socket to listen on, overriding the configuration
      --script <SCRIPT>  Policy script; selects the script selector
  -v, --verbose          Enable verbose logging
  -h, --help             Print help
  -V, --version          Print version"

/-- Shows the log, without details unless they are wanted. -/
def showLog (verbose : Bool) (service : Service) : IO Service := do
  let errors ← IO.getStderr
  for l in service.log do
    if verbose || l.level != .debug then errors.putStrLn (Service.lineText l)
  return { service with log := [] }

/-- Carries all requests under way to their ends. -/
partial def work (server : Call.Server Service) (verbose : Bool)
    (connection : Call.Connection Service) (service : Service) :
    IO (Call.Connection Service × Service) := do
  let (connection, service) := connection.settle server (← IO.monoMsNow) service
  let (bytes, connection) := connection.take
  let output ← IO.getStdout
  output.write ⟨bytes.toArray⟩
  output.flush
  let service ← showLog verbose service
  if connection.jobs.isEmpty then return (connection, service)
  IO.sleep 1
  work server verbose connection service

partial def serve (server : Call.Server Service) (verbose : Bool)
    (connection : Call.Connection Service) (service : Service) : IO Unit := do
  let bytes ← (← IO.getStdin).read 65536
  if bytes.isEmpty then
    let _ ← work server verbose connection.receiveEnd service
  else
    let (connection, service) ← work server verbose (connection.receive bytes.toList) service
    unless connection.ended do serve server verbose connection service

def report (text : String) : IO Unit := do (← IO.getStderr).putStrLn ("Error: " ++ text)

/-- The text of the file that the command line names, if it names one and it can be read. -/
def configurationText (line : CommandLine) : IO (Except String String) := do
  match line.config with
  | none => return .error "no file named"
  | some path =>
    try return .ok (← IO.FS.readFile path)
    catch e => return .error (toString e)

def carryOut (line : CommandLine) : IO UInt32 := do
  let text ← configurationText line
  match line.load fun _ => text with
  | .error e =>
    report e.message
    return 1
  | .ok c =>
    match Daemon.policy c .bare with
    | .error e =>
      report (DaemonError.policy e.toPolicyError).message
      return 1
    | .ok p =>
      serve (Service.server p c.rpc.maxFrameSize.toNat) line.verbose { client := ⟨1⟩ } {}
      return 0

end PathPolicy

open PathPolicy in
def main (arguments : List String) : IO UInt32 := do
  match CommandLine.parse arguments with
  | .ok line => carryOut line
  | .error .displayHelp =>
    IO.println usage
    return 0
  | .error .displayVersion =>
    IO.println "panpolicyd"
    return 0
  | .error stop =>
    report (stop.name ++ "\n\n" ++ usage)
    return 2
