import PathPolicy.Document.Daemon
import PathPolicy.Scenario.Building

/-!
# A daemon in operation

A daemon is started on a socket, clients connect to it and each drives a session of its own, and in
the end the daemon is told to stop. What is shown of it is what its clients see, and its log.
-/

namespace PathPolicy.Scenario

inductive OperationStep
  | connect (client : String)
  /-- Removes the socket from the directory. -/
  | unlink
  | act (client : String) (step : Step)

instance : Readable OperationStep :=
  ⟨fun d => do
    match ← d.get? "do" with
    | "connect" => return .connect (← d.get? "as")
    | "unlink" => return .unlink
    | _ => return .act (← d.get? "as") (← Readable.read? d)⟩

structure OperationSpec where
  configuration : Configuration
  /-- What is at the socket's place before the daemon starts. -/
  before : Site
  scripts : Scripts
  /-- Whether the methods are listed rather than counted. -/
  listsMethods : Bool
  steps : List OperationStep

instance : Readable OperationSpec :=
  ⟨fun d => do
    return {
      configuration := ← d.getD "config" {}
      before := ← d.get? "before"
      scripts := ← readScripts d
      listsMethods := ← d.getD "list" false
      steps := ← d.get? "steps" }⟩

/-- A daemon and its clients. -/
structure Operation where
  world : World
  server : Call.Server World
  /-- Whether the daemon can be reached by its socket. -/
  reachable : Bool
  /-- The number of the next client to connect. -/
  nextClient : UInt64
  sessions : List (String × Session) := []

namespace Operation

/-- A daemon that serves a policy built. One that takes the place of a stale socket has been
connected to once before its first client, to see that it is up. -/
def construct (spec : OperationSpec) (p : Policy) : Construction Operation := do
  let built ← Built.ofPolicy p spec.configuration spec.scripts []
  let server : Call.Server World := { frameLimit := spec.configuration.rpc.maxFrameSize.toNat }
  let server ← Assembly.serveSelector built.selector server
  let server ← Assembly.serveTracer built.tracer server
  return {
    world := (← get).world
    server
    reachable := (spec.before.prepare "").toBool
    nextClient := if spec.before = .staleSocket then 2 else 1 }

/-- A session over a connection to the daemon, shared by its selector and its tracer. -/
def newSession (spec : OperationSpec) (server : Call.Server World) (number : UInt64) :
    Construction Session := do
  let rpc := spec.configuration.rpc
  let client ←
    Assembly.addClient { endpoint := rpc.socketPath, frameLimit := rpc.maxFrameSize.toNat }
  let state ← Assembly.addProxy
  let caller := callerOf client (server.farEnd ⟨number⟩)
  return {
    world := { (← get).world with ids := {} }
    selector := Remote.selector caller (World.proxy state)
    tracer := Remote.tracer caller
    nodes := [.proxy state client]
    view := { clients := [client] } }

/-- How many clients hold handles, and how many connections are registered. -/
def counts (o : Operation) : List Nat :=
  [((World.handleBook 0).get o.world).clientCount,
    ((World.connectionBook 0).get o.world).connectionCount]

/-- A report of nothing but an outcome. -/
def outcome (r : Document) : Document := .record [("r", r)]

/-- Reports on a step of a client. Its session allocates tracing ids of its own. -/
def act (o : Operation) (name : String) (step : Step) : Option (Document × Operation) := do
  let session ← o.sessions.lookup name
  let (shown, session) ←
    ({ session with world := { o.world with ids := session.world.ids } } : Session).report step
  return (shown, { o with
    world := session.world
    sessions := o.sessions.map fun (n, s) => (n, if n == name then session else s) })

def step (spec : OperationSpec) (o : Operation) : OperationStep → Option (Document × Operation)
  | .connect name =>
    if o.reachable then
      match (newSession spec o.server o.nextClient).run { world := o.world } with
      | .error _ => none
      | .ok (session, a) =>
        let sessions := o.sessions.filter (·.1 ≠ name) ++ [(name, session)]
        some (outcome fine,
          { o with world := a.world, nextClient := o.nextClient + 1, sessions })
    else some (outcome (.record [("error", .text "Call.Connect")]), o)
  | .unlink => some (outcome (describe o.reachable), { o with reachable := false })
  | .act name st => o.act name st

def steps (spec : OperationSpec) :
    Operation → List OperationStep → Option (List Document × Operation)
  | o, [] => some ([], o)
  | o, st :: rest => do
    let (shown, o) ← o.step spec st
    let (others, o) ← steps spec o rest
    return (shown :: others, o)

/-- What each client meets that asks for a path after the daemon has stopped. -/
def aftermath (o : Operation) : Option (List (String × Document)) := do
  let clients := o.sessions.flatMap fun (_, s) => s.view.clients
  let world := clients.foldl (fun w i => (World.client i).modify Call.Client.receiveEnd w) o.world
  let (shown, _) ← o.sessions.foldlM
    (fun (shown, o) (name, _) => do
      let (d, o) ← Operation.act o name (.path ⟨"after"⟩)
      return (shown ++ [(name, d)], o))
    ([], { o with world })
  if shown.isEmpty then return [] else return [("after", .record shown)]

end Operation

namespace OperationSpec

def environment (spec : OperationSpec) : Environment where
  connects _ := false
  loads := spec.scripts.loads

def answer (spec : OperationSpec) : Option Document :=
  match Daemon.policy spec.configuration spec.environment with
  | .error e => some (describe (DaemonError.policy e.toPolicyError))
  | .ok p =>
    match (Operation.construct spec p).run {} with
    | .error e => some (describe e)
    | .ok (o, _) => do
      let (shown, ended) ← o.steps spec spec.steps
      let methods := o.server.methods
      return .record ([
        ("methods", if spec.listsMethods then describe methods else describe methods.length),
        ("counts", describe o.counts),
        ("socket", describe true),
        ("steps", .list shown),
        ("end", updateDocument (spec.before.prepare spec.configuration.rpc.socketPath)),
        ("left_behind", describe spec.before.remains)] ++ (← ended.aftermath))

end OperationSpec

end PathPolicy.Scenario
