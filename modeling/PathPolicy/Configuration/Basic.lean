import PathPolicy.Error
import PathPolicy.Selector.Basic
import PathPolicy.Telemetry.Tracer

/-!
# Configuration

What can be configured, with the values that hold when nothing is said. `selectorMode` and
`telemetryMode` settle which selector and tracer are asked for and where they are found;
`validate` accepts a configuration just when both can be settled and the numbers make sense.
-/

namespace PathPolicy

open Telemetry

structure SelectorSection where
  mode : SelectorKind := .default
  socketPath : Option String := none
  scriptPath : Option String := none
  debugDelayMs : Option UInt64 := none
  deriving DecidableEq

structure TelemetrySection where
  mode : TracerKind := .noop
  socketPath : Option String := none
  scriptPath : Option String := none
  deriving DecidableEq

structure ConnectionSection where
  socketPath : String := "/tmp/panpolicyd.sock"
  maxFrameSize : UInt64 := 16777216
  connectTimeoutMs : UInt64 := 5000
  deriving DecidableEq

structure ScriptSection where
  periodicIntervalMs : UInt64 := 1000
  deriving DecidableEq

structure Configuration where
  selector : SelectorSection := {}
  telemetry : TelemetrySection := {}
  rpc : ConnectionSection := {}
  script : ScriptSection := {}
  deriving DecidableEq

/-- A selector and where it is found. -/
inductive SelectorMode
  | default
  | remote (socket : String)
  | script (path : String)
  deriving DecidableEq

def SelectorMode.kind : SelectorMode → SelectorKind
  | .default => .default
  | .remote _ => .remote
  | .script _ => .script

/-- A tracer and where it is found. -/
inductive TelemetryMode
  | noop
  | logging
  | remote (socket : String)
  | script (path : String)
  deriving DecidableEq

def TelemetryMode.kind : TelemetryMode → TracerKind
  | .noop => .noop
  | .logging => .logging
  | .remote _ => .remote
  | .script _ => .script

/-- What makes a configuration unusable. -/
inductive InvalidConfiguration
  | frameLimitTooSmall
  | noConnectTimeout
  | noPeriodicInterval
  | selectorWithoutScript
  | tracerWithoutScript
  deriving DecidableEq

namespace InvalidConfiguration

def reason : InvalidConfiguration → String
  | .frameLimitTooSmall => "rpc.max_frame_size must be at least 1024 bytes"
  | .noConnectTimeout => "rpc.connect_timeout_ms must be greater than 0"
  | .noPeriodicInterval => "script.periodic_interval_ms must be greater than 0"
  | .selectorWithoutScript => "selector.mode = \"script\" requires selector.script_path"
  | .tracerWithoutScript => "telemetry.mode = \"script\" requires a script path"

def toPolicyError (e : InvalidConfiguration) : PolicyError := .config (.invalid e.reason)

end InvalidConfiguration

namespace Configuration

/-- Small limits and short intervals. -/
def testing : Configuration where
  rpc := { maxFrameSize := 1048576, connectTimeoutMs := 500 }
  script := { periodicIntervalMs := 20 }

/-- A remote selector without a socket of its own uses the common one. -/
def selectorMode (c : Configuration) : Except InvalidConfiguration SelectorMode :=
  match c.selector.mode with
  | .default => .ok .default
  | .remote => .ok (.remote (c.selector.socketPath.getD c.rpc.socketPath))
  | .script =>
    match c.selector.scriptPath with
    | some path => .ok (.script path)
    | none => .error .selectorWithoutScript

/-- A scripted tracer without a script of its own uses the selector's. -/
def telemetryMode (c : Configuration) : Except InvalidConfiguration TelemetryMode :=
  match c.telemetry.mode with
  | .noop => .ok .noop
  | .logging => .ok .logging
  | .remote => .ok (.remote (c.telemetry.socketPath.getD c.rpc.socketPath))
  | .script =>
    match c.telemetry.scriptPath.or c.selector.scriptPath with
    | some path => .ok (.script path)
    | none => .error .tracerWithoutScript

def validate (c : Configuration) : Except InvalidConfiguration Unit := do
  if c.rpc.maxFrameSize < 1024 then throw .frameLimitTooSmall
  if c.rpc.connectTimeoutMs = 0 then throw .noConnectTimeout
  if c.script.periodicIntervalMs = 0 then throw .noPeriodicInterval
  let _ ← c.selectorMode
  let _ ← c.telemetryMode

end Configuration

end PathPolicy
