import PathPolicy.Dictionary
import PathPolicy.Error
import PathPolicy.Procedure
import PathPolicy.Telemetry.Event
import PathPolicy.Text.Quoted

/-!
# Tracers

A tracer is told of each connection before its first event, and then of its events. `Tracer.silent`
ignores them and `Tracer.logging` writes a line for each. A `TracedConnection` is what the owner of
a connection holds: its events go to the tracer under the id it was registered with.
-/

namespace PathPolicy.Telemetry

structure Tracer (σ : Type) where
  register : TracingId → Perspective → ConnectionId → Procedure σ (Except PolicyError Unit)
  record : TracingId → ConnectionEvent → Procedure σ (Except PolicyError Unit)

/-- Who receives telemetry, where a choice is configured. -/
inductive TracerKind
  | noop
  | logging
  | remote
  | script
  deriving DecidableEq, Inhabited

namespace TracerKind

def name : TracerKind → String
  | .noop => "noop"
  | .logging => "logging"
  | .remote => "remote"
  | .script => "script"

def title : TracerKind → String
  | .noop => "Noop"
  | .logging => "Logging"
  | .remote => "Remote"
  | .script => "Script"

end TracerKind

inductive LogLevel
  | debug
  | info
  | warn
  deriving DecidableEq

def LogLevel.name : LogLevel → String
  | .debug => "DEBUG"
  | .info => "INFO"
  | .warn => "WARN"

/-- A line of the log: its fields under their names, the message first. -/
structure LogLine where
  level : LogLevel
  fields : List (String × String)
  deriving DecidableEq

/-- The first destination id of each connection that is registered and not closed. -/
structure LogBook where
  registered : Dictionary TracingId ConnectionId := {}
  deriving Inhabited

namespace LogBook

def openConnections (b : LogBook) : Nat := b.registered.size

def register (b : LogBook) (id : TracingId) (p : Perspective) (odcid : ConnectionId) :
    LogLine × LogBook :=
  (⟨.info, [("message", "NewTracerForConnection"), ("tracing_id", toString id),
    ("perspective", toString p), ("odcid", toString odcid)]⟩,
    ⟨b.registered.insert id odcid⟩)

/-- The line for an event of a registered connection. -/
def line (id : TracingId) (odcid : ConnectionId) (e : ConnectionEvent) : LogLine :=
  let head (message : String) : List (String × String) :=
    [("message", message), ("tracing_id", toString id), ("odcid", toString odcid)]
  match e with
  | .startedConnection localAddress remote .. =>
    ⟨.info, head "StartedConnection" ++ [("local", localAddress), ("remote", remote)]⟩
  | .closedConnection reason =>
    ⟨.info, head "ClosedConnection" ++ [("reason", Text.Quoted.quoteOption reason)]⟩
  | .close => ⟨.info, head "Close"⟩
  | .debug name message => ⟨.info, head "Debug" ++ [("name", name), ("message", message)]⟩
  | e => ⟨.debug, head e.kind.name⟩

/-- Closing a connection ends its registration; an event without one is only warned of. -/
def record (b : LogBook) (id : TracingId) (e : ConnectionEvent) : LogLine × LogBook :=
  match b.registered.get? id with
  | none =>
    (⟨.warn, [("message", "event for unregistered connection"), ("tracing_id", toString id),
      ("event", e.kind.name)]⟩, b)
  | some odcid =>
    (line id odcid e, if e.kind = .close then ⟨b.registered.erase id⟩ else b)

end LogBook

namespace Tracer

variable {σ τ : Type}

def silent : Tracer σ where
  register _ _ _ := pure (.ok ())
  record _ _ := pure (.ok ())

/-- Keeps its book at `p` and hands each line to `emit`. -/
def logging (p : Procedure.Place σ LogBook) (emit : LogLine → σ → σ) : Tracer σ where
  register id side odcid := .stretch fun s =>
    let (line, book) := (p.get s).register id side odcid
    (.ok (), emit line (p.set book s))
  record id e := .stretch fun s =>
    let (line, book) := (p.get s).record id e
    (.ok (), emit line (p.set book s))

def within (p : Procedure.Place τ σ) (T : Tracer σ) : Tracer τ where
  register id side odcid := (T.register id side odcid).within p
  record id e := (T.record id e).within p

end Tracer

/-- A connection registered with a tracer. -/
structure TracedConnection where
  id : TracingId
  perspective : Perspective
  deriving DecidableEq

namespace TracedConnection

variable {σ : Type}

/-- Takes the next id and registers the connection under it; a failure uses the id up. -/
def start (T : Tracer σ) (ids : Procedure.Place σ TracingIdAllocator) (side : Perspective)
    (odcid : ConnectionId) : Procedure σ (Except PolicyError TracedConnection) := do
  let id ← .stretch fun s =>
    let (id, rest) := (ids.get s).allocate
    (id, ids.set rest s)
  match ← T.register id side odcid with
  | .error e => return .error e
  | .ok () => return .ok ⟨id, side⟩

def emit (T : Tracer σ) (c : TracedConnection) (e : ConnectionEvent) :
    Procedure σ (Except PolicyError Unit) := T.record c.id e

def close (T : Tracer σ) (c : TracedConnection) : Procedure σ (Except PolicyError Unit) :=
  c.emit T .close

/-- How diagnostics show the connection. -/
def text (c : TracedConnection) : String :=
  "ConnectionTracer \x7b id: TracingId(" ++ toString c.id ++ "), perspective: " ++
    Enumeration.name c.perspective ++ " \x7d"

end TracedConnection

end PathPolicy.Telemetry
