import PathPolicy.Configuration.Basic
import PathPolicy.FileName

/-!
# Policies

A `Policy` is the selector and the tracer that a client of paths uses, as they were found when it
was built. A `PolicyRequest` says what is wanted: a configuration, and what is to be taken in place
of parts of it. Building one fails only if the configuration is invalid. A selector that cannot be
had gives way to the default one, and a tracer to the silent one. Selector and tracer share a
connection when they name the same socket and a script when they name the same file.
-/

namespace PathPolicy

open Telemetry

/-- The world as a build finds it, by the names of files. -/
structure Environment where
  /-- Whether something listens on a socket. -/
  connects : String → Bool
  /-- Whether a connection made under a name is still open when it is wanted again. -/
  staysOpen : String → Bool := fun _ => true
  loads : String → Bool

inductive Acquisition
  | connected (socket : String)
  | unreachable (socket : String)
  | loaded (script : String)
  | unloadable (script : String)
  /-- Regular calls of a script begin. -/
  | heartbeat (script : String)
  deriving DecidableEq

namespace Environment

/-- A connection to the socket was made, under whatever name, and is open. -/
def isConnected (env : Environment) (socket : String) (past : List Acquisition) : Bool :=
  past.any fun
    | .connected name => SameFile name socket && env.staysOpen name
    | _ => false

def isLoaded (script : String) (past : List Acquisition) : Bool :=
  past.any fun
    | .loaded name => SameFile name script
    | _ => false

def isBeating (script : String) (past : List Acquisition) : Bool :=
  past.any fun
    | .heartbeat name => SameFile name script
    | _ => false

/-- Connects to a socket unless a connection to it is open, and tells whether there is one now. -/
def connect (env : Environment) (socket : String) (past : List Acquisition) :
    Bool × List Acquisition :=
  if env.isConnected socket past then (true, past)
  else if env.connects socket then (true, past ++ [.connected socket])
  else (false, past ++ [.unreachable socket])

/-- Loads a script unless it is loaded, and tells whether it is now. -/
def load (env : Environment) (script : String) (past : List Acquisition) :
    Bool × List Acquisition :=
  if isLoaded script past then (true, past)
  else if env.loads script then (true, past ++ [.loaded script])
  else (false, past ++ [.unloadable script])

/-- Starts the heartbeat of a script unless it is running. -/
def startHeartbeat (script : String) (past : List Acquisition) : List Acquisition :=
  if isBeating script past then past else past ++ [.heartbeat script]

/-- Only a script that selects paths is called regularly. -/
def obtainSelector (env : Environment) (wanted : SelectorMode) (past : List Acquisition) :
    SelectorMode × List Acquisition :=
  match wanted with
  | .default => (.default, past)
  | .remote socket =>
    match env.connect socket past with
    | (true, past) => (wanted, past)
    | (false, past) => (.default, past)
  | .script path =>
    match env.load path past with
    | (true, past) => (wanted, startHeartbeat path past)
    | (false, past) => (.default, past)

def obtainTracer (env : Environment) (wanted : TelemetryMode) (past : List Acquisition) :
    TelemetryMode × List Acquisition :=
  match wanted with
  | .noop => (.noop, past)
  | .logging => (.logging, past)
  | .remote socket =>
    match env.connect socket past with
    | (true, past) => (wanted, past)
    | (false, past) => (.noop, past)
  | .script path =>
    match env.load path past with
    | (true, past) => (wanted, past)
    | (false, past) => (.noop, past)

end Environment

structure Policy where
  selector : SelectorMode
  /-- The milliseconds that each operation of the selector waits, if it waits. -/
  delay : Option UInt64 := none
  tracer : TelemetryMode
  /-- What was done to the world, in order. -/
  acquired : List Acquisition := []
  deriving DecidableEq

namespace Policy

/-- What was built in the end, whether or not it waits. -/
def selectorKind (p : Policy) : SelectorKind := p.selector.kind

def tracerKind (p : Policy) : TracerKind := p.tracer.kind

/-- The kind of the outermost selector; one that waits is of no kind of its own. -/
def kind (p : Policy) : Option SelectorKind :=
  if p.delay.isSome then none else some p.selectorKind

def name (p : Policy) : String :=
  match p.kind with
  | none => "debug"
  | some k => k.name

def text (p : Policy) : String :=
  "Policy \x7b selector: \"" ++ p.name ++ "\", selector_kind: " ++ p.selectorKind.title ++
    ", tracer_kind: " ++ p.tracerKind.title ++ " \x7d"

end Policy

structure PolicyRequest where
  configuration : Configuration := {}
  /-- The selector to build, whatever the configuration says. -/
  selector : Option SelectorMode := none
  /-- The tracer to build, whatever the configuration says. -/
  telemetry : Option TelemetryMode := none
  delay : Option UInt64 := none

/-- The configuration has to be valid even where its parts are replaced. -/
def PolicyRequest.build (r : PolicyRequest) (env : Environment) :
    Except InvalidConfiguration Policy := do
  r.configuration.validate
  let wantedSelector ← r.selector.elim r.configuration.selectorMode .ok
  let wantedTracer ← r.telemetry.elim r.configuration.telemetryMode .ok
  let (selector, past) := env.obtainSelector wantedSelector []
  let (tracer, past) := env.obtainTracer wantedTracer past
  return {
    selector
    delay := r.delay.or r.configuration.selector.debugDelayMs
    tracer
    acquired := past }

end PathPolicy
