import PathPolicy.Call.Server
import PathPolicy.Remote.TracerMessageCodec
import PathPolicy.Telemetry.Tracer

/-!
# A tracer for callers at the far end of a connection

The ids of different callers may coincide, so the tracer knows each connection under an id issued
here. What a caller registered stays registered until the caller is gone, also after its last event.
-/

namespace PathPolicy.Remote

open Telemetry

structure ConnectionBook where
  ids : TracingIdAllocator := {}
  /-- The id issued for a caller's id. -/
  connections : Dictionary (ClientId × TracingId) TracingId := {}
  deriving Inhabited

namespace ConnectionBook

def connectionCount (b : ConnectionBook) : Nat := b.connections.size

def issue (b : ConnectionBook) : TracingId × ConnectionBook :=
  let (id, ids) := b.ids.allocate
  (id, { b with ids })

def insert (b : ConnectionBook) (c : ClientId) (callerId issued : TracingId) : ConnectionBook :=
  { b with connections := b.connections.insert (c, callerId) issued }

def release (b : ConnectionBook) (c : ClientId) : ConnectionBook :=
  { b with connections := b.connections.restrict fun key => key.1 ≠ c }

end ConnectionBook

variable {σ : Type}

/-- Registers a connection under an id of its own, which a failure uses up. -/
def serveRegistration (T : Tracer σ) (p : Procedure.Place σ ConnectionBook) (c : ClientId)
    (m : TracerMessage) : Procedure σ (Except MethodError Unit) :=
  let method := TracerMessage.registrationMethod
  let fields := do
    return (← MethodError.required method "tracing_id" m.tracingId,
      ← MethodError.required method "perspective" m.perspective,
      ← MethodError.required method "odcid" m.odcid)
  match fields with
  | .error e => return .error e
  | .ok (callerId, side, odcid) => do
    let issued ← .stretch fun s =>
      let (id, b) := (p.get s).issue
      (id, p.set b s)
    match ← T.register issued side odcid with
    | .error e => return .error e.toMethodError
    | .ok () =>
      .write (p.modify (·.insert c callerId issued))
      return .ok ()

/-- Passes an event on under the id issued for its connection. -/
def serveEvent (T : Tracer σ) (p : Procedure.Place σ ConnectionBook) (k : EventKind)
    (c : ClientId) (m : TracerMessage) : Procedure σ (Except MethodError Unit) :=
  let method := TracerMessage.methodFor k
  let fields := do
    let callerId ← MethodError.required method "tracing_id" m.tracingId
    return (callerId, ← m.toEvent? k)
  match fields with
  | .error e => return .error e
  | .ok (callerId, event) => do
    match ← .read fun s => (p.get s).connections.get? (c, callerId) with
    | none => return .error (.unknownTracingId method callerId)
    | some issued => return (← T.record issued event).mapError PolicyError.toMethodError

/-- Registers the methods of a tracer, with the connections of its callers at `p`. -/
def registerTracer (T : Tracer σ) (p : Procedure.Place σ ConnectionBook) (server : Call.Server σ) :
    Call.Server σ :=
  let server := server.register TracerMessage.registrationMethod Codec.tracerMessage Codec.unit
    (serveRegistration T p)
  let server := EventKind.all.foldl
    (fun server k => server.register (TracerMessage.methodFor k) Codec.tracerMessage Codec.unit
      (serveEvent T p k)) server
  server.onFarewell fun c => p.modify (·.release c)

end PathPolicy.Remote
