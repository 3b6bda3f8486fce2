import PathPolicy.Policy

/-!
# The policy daemon

The daemon serves a selector and a tracer of its own to clients on a socket. It never asks another
daemon: it selects with the script of its configuration, or by default, and telemetry goes to the
script or to the log.
-/

namespace PathPolicy

/-- What keeps a daemon from working. -/
inductive DaemonError
  | policy (e : PolicyError)
  | unreadableConfiguration (path reason : String)
  | malformedConfiguration (reason : String)
  | alreadyRunning (socket : String)
  | io (reason : String)
  deriving DecidableEq

def DaemonError.message : DaemonError → String
  | .policy e => "Policy error: " ++ e.message
  | .unreadableConfiguration path reason =>
    "Failed to read configuration " ++ path ++ ": " ++ reason
  | .malformedConfiguration reason => "TOML parsing error: " ++ reason
  | .alreadyRunning socket => "Another daemon is already listening on " ++ socket
  | .io reason => "IO error: " ++ reason

/-- What is found where a daemon is to listen. -/
inductive Site
  | vacant
  /-- A socket on which nobody listens any more. -/
  | staleSocket
  | file
  | directory
  | occupied
  | missingParent
  deriving DecidableEq

namespace Site

/-- A file or stale socket is removed to make room for the socket of the daemon. -/
def prepare (socket : String) : Site → Except DaemonError Unit
  | .vacant | .staleSocket | .file => .ok ()
  | .directory => .error (.io "Is a directory")
  | .missingParent => .error (.io "No such file or directory")
  | .occupied => .error (.alreadyRunning socket)

/-- Whether something is left there when the daemon has ended. -/
def remains : Site → Bool
  | .vacant | .staleSocket | .file | .missingParent => false
  | .directory | .occupied => true

end Site

namespace Daemon

def selectorMode (c : Configuration) : Except InvalidConfiguration SelectorMode :=
  match c.selector.mode with
  | .script => c.selectorMode
  | .default | .remote => .ok .default

def telemetryMode (c : Configuration) : Except InvalidConfiguration TelemetryMode :=
  match c.telemetry.mode with
  | .script => c.telemetryMode
  | .noop | .logging | .remote => .ok .logging

/-- What the daemon serves under a configuration. -/
def policy (c : Configuration) (env : Environment) : Except InvalidConfiguration Policy := do
  let selector ← selectorMode c
  let telemetry ← telemetryMode c
  ({ configuration := c, selector := some selector, telemetry := some telemetry } :
    PolicyRequest).build env

end Daemon

end PathPolicy
