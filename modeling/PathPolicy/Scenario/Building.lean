import PathPolicy.Document.Configuration
import PathPolicy.Policy
import PathPolicy.PolicySelector
import PathPolicy.Scenario.Session

/-!
# Policies under test

A policy is built where some servers listen and some scripts lie in a directory. A session then
drives what was built, and shows the servers as well.
-/

namespace PathPolicy.Scenario

open Telemetry

/-- The name by which a configuration refers to a file of the directory. -/
def pathOf (file : String) : String := "$D/" ++ file

/-- The file of the directory is found under the name. -/
def leadsTo (name file : String) : Bool :=
  SameFile (pathOf file) name && !FileName.endsInDirectory name

/-- What is kept under a name of the same file. -/
def lookupFile {α : Type} (name : String) (kept : List (String × α)) : Option α :=
  (kept.find? fun entry => SameFile entry.1 name).map Prod.snd

/-- The scripts in the directory, by file. -/
abbrev Scripts := List (String × Script.Program)

/-- The script that a configuration refers to, under the name by which it does. -/
def Scripts.find? (scripts : Scripts) (path : String) : Option Script.Program := do
  let (_, P) ← List.find? (fun (file, _) => leadsTo path file) scripts
  return { P with name := path }

/-- Whether there is such a script and it can be loaded. -/
def Scripts.loads (scripts : Scripts) (path : String) : Bool :=
  (scripts.find? path).any (·.fault.isNone)

/-- A server that listens. -/
structure Listener where
  file : String
  server : Call.Server World
  /-- How many connections it got. -/
  accepted : Nat := 0

/-- What a policy is made of, under the names its configuration uses. -/
structure Supplies where
  listeners : List Listener := []
  /-- The clients of the sockets connected to, each with its far end. -/
  connections : List (String × Nat × Call.FarEnd World) := []
  hosts : List (String × Nat × Script.Program) := []

namespace Supplies

/-- Connects to the server that listens at a path. -/
def connect (s : Supplies) (path : String) (frameLimit : Nat) : Construction Supplies := do
  match s.listeners.find? fun l => leadsTo path l.file with
  | none => return s
  | some l =>
    let number := l.accepted + 1
    let client ← Assembly.addClient { endpoint := path, frameLimit }
    let counted := { l with accepted := number }
    return { s with
      listeners := s.listeners.map fun k => if k.file == l.file then counted else k
      connections := (path, client, l.server.farEnd ⟨number.toUInt64⟩) :: s.connections }

/-- Does what a build did to the world. -/
def acquire (c : Configuration) (scripts : Scripts) (s : Supplies) :
    Acquisition → Construction Supplies
  | .connected socket => s.connect socket c.rpc.maxFrameSize.toNat
  | .loaded path => do
    match scripts.find? path with
    | none => return s
    | some P =>
      return { s with
        hosts := (path, ← Assembly.addHost { program := P, observed := false }, P) :: s.hosts }
  | .heartbeat path => do
    if let some (host, _) := lookupFile path s.hosts then
      let period := c.script.periodicIntervalMs.toNat
      modify fun a => { a with world := World.startHeartbeat period host a.world }
    return s
  | .unreachable _ => return s
  | .unloadable _ => return s

/-- The selector of a policy, without the wait, and how it looks from outside. -/
def selector (s : Supplies) (mode : SelectorMode) : Construction (Selector World × Node) := do
  match mode with
  | .remote socket =>
    if let some (client, far) := lookupFile socket s.connections then
      let state ← Assembly.addProxy
      return (Remote.selector (callerOf client far) (World.proxy state), .proxy state client)
  | .script path =>
    if let some (host, P) := lookupFile path s.hosts then
      let state ← Assembly.addScripted
      return (Script.selector (World.script P host) (World.scriptSelector state),
        .script state host)
  | .default => pure ()
  return (failoverSelector.within (World.failover (← Assembly.addFailover)), .failover)

def tracer (s : Supplies) (mode : TelemetryMode) : Construction (Tracer World) := do
  match mode with
  | .logging => Assembly.logging
  | .remote socket =>
    match lookupFile socket s.connections with
    | some (client, far) => return Remote.tracer (callerOf client far)
    | none => return Tracer.silent
  | .script path =>
    match lookupFile path s.hosts with
    | some (host, P) => return Script.tracer (World.script P host)
    | none => return Tracer.silent
  | .noop => return Tracer.silent

end Supplies

/-- A policy put together. -/
structure Built where
  supplies : Supplies
  selector : Selector World
  node : Node
  tracer : Tracer World

/-- Puts a policy together where `listeners` listen. -/
def Built.ofPolicy (p : Policy) (c : Configuration) (scripts : Scripts)
    (listeners : List Listener) : Construction Built := do
  let supplies ← p.acquired.foldlM (Supplies.acquire c scripts) { listeners }
  let (S, node) ← supplies.selector p.selector
  let S := PolicySelector.selector ⟨some p.selectorKind, S⟩
  let tracer ← supplies.tracer p.tracer
  match p.delay with
  | none => return { supplies, selector := S, node, tracer }
  | some ms =>
    let delayed := PolicySelector.selector ⟨none, S.delayed ms.toNat⟩
    return { supplies, selector := delayed, node := .delayed ms.toNat, tracer }

structure ListenerSpec where
  file : String
  selector : Option SelectorSpec
  tracer : Option TracerSpec

/-- What a policy is built from, and what happens then. -/
structure BuildSpec where
  request : PolicyRequest
  listeners : List ListenerSpec
  scripts : Scripts
  steps : List Step

/-- The parts of a description under their names. -/
def namedParts {α : Type} (d : Document) (key : String) (read : String → Document → Option α) :
    Option (List α) :=
  match d.field key with
  | .absent => some []
  | .record fields => fields.mapM fun (name, part) => read name part
  | _ => none

def readScripts (d : Document) : Option Scripts :=
  namedParts d "scripts" fun file part => do return (file, ← Readable.read? part)

instance : Readable BuildSpec :=
  ⟨fun d => do
    let listeners ← namedParts d "sockets" fun file part => do
      let spec : ListenerSpec :=
        { file, selector := ← part.get? "selector", tracer := ← part.get? "tracer" }
      return spec
    return {
      request := {
        configuration := ← d.getD "config" {}
        selector := ← d.get? "selector"
        telemetry := ← d.get? "telemetry"
        delay := ← d.get? "debug_delay_ms" }
      listeners
      scripts := ← readScripts d
      steps := ← d.get? "steps" }⟩

namespace BuildSpec

/-- Something listens at the sockets described, and the scripts that are sound load. -/
def environment (spec : BuildSpec) : Environment where
  connects path := spec.listeners.any fun l => leadsTo path l.file
  loads := spec.scripts.loads

def listen (spec : ListenerSpec) : Construction Listener := do
  let mut server : Call.Server World := { frameLimit := usualLimit }
  if let some selector := spec.selector then
    server ← Assembly.serveSelector (← Assembly.selector selector) server
  if let some tracer := spec.tracer then
    server ← Assembly.serveTracer (← Assembly.tracer tracer) server
  return { file := spec.file, server }

/-- The session of the policy built, in which calls of its script are shown, and the listeners. -/
def construct (spec : BuildSpec) (p : Policy) : Construction (Session × List Listener) := do
  let listeners ← spec.listeners.mapM listen
  let view := View.ofWorld (← get).world
  let built ← Built.ofPolicy p spec.request.configuration spec.scripts listeners
  Assembly.addNode built.node
  let host :=
    match built.node with
    | .script _ host => host
    | _ => 0
  if let .script _ host := built.node then
    modify fun a => { a with
      world := (World.host host).modify (fun h => { h with observed := true }) a.world }
  let session := Session.ofAssembly (← get) built.selector built.tracer
  return ({ session with view, host, farewell := id }, built.supplies.listeners)

/-- Whether the heartbeat of a script that selects without a wait is running. -/
def heartbeat (s : Session) : List (String × Document) :=
  match s.nodes.getLast? with
  | some (.script _ host) => [("heartbeat", describe (World.isBeating host s.world))]
  | _ => []

def answer (spec : BuildSpec) : Option Document :=
  match spec.request.build spec.environment with
  | .error e => some (describe e)
  | .ok p =>
    match (spec.construct p).run {} with
    | .error e => some (describe e)
    | .ok ((s, listeners), _) => do
      let accepted := listeners.map fun l => (l.file, describe l.accepted)
      return .record ([
        ("selector_kind", describe p.selectorKind.name),
        ("tracer_kind", describe p.tracerKind.name),
        ("name", describe p.name),
        ("kind", describe (p.kind.map SelectorKind.name)),
        ("debug", describe p.text),
        ("accepted", .record accepted),
        ("steps", .list (← s.reportAll spec.steps))] ++ heartbeat s)

end BuildSpec

end PathPolicy.Scenario
