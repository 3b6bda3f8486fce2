import PathPolicy.Scenario.Assembly

/-!
# Sessions

A session drives one selector and one tracer, step by step, as the owner of connections would. After
each step it reports the outcome, what its components let the observer know, and how they stand.
-/

namespace PathPolicy.Scenario

open Telemetry

inductive Step
  | start (remote : RemoteAddress) (paths : List Offered)
  | refresh (remote : RemoteAddress) (paths : List Offered)
  | path (remote : RemoteAddress)
  | pathDown (remote : RemoteAddress) (fingerprint : Fingerprint) (interface : Interface)
  | close (remote : RemoteAddress)
  | handleOf (remote : RemoteAddress) (fingerprint : Fingerprint)
  | resolve (handle : PathHandle)
  | names
  | delays
  | endpoints
  | texts
  | disconnect
  | dropSelector
  | startConnection (name : String) (side : Perspective) (odcid : ConnectionId)
  | emit (name : String) (event : ConnectionEvent)
  | closeConnection (name : String)
  | register (id : TracingId) (side : Perspective) (odcid : ConnectionId)
  | record (id : TracingId) (event : ConnectionEvent)
  | call (module entry : String) (arguments : List Script.Value)
  | startHeartbeat (ms : Nat)
  | stopHeartbeat
  | isBeating
  | hostName
  | sleep (ms : Nat)

def Step.remote? : Step → Option RemoteAddress
  | .start r _ | .refresh r _ | .path r | .pathDown r .. | .close r | .handleOf r _ => some r
  | _ => none

instance : Readable Step :=
  ⟨fun d => do
    let remote : Option RemoteAddress := d.get? "remote"
    let odcid : Option ConnectionId := (d.get? "odcid").map fun b : HexBytes => ⟨b.bytes⟩
    match ← d.get? "do" with
    | "init" => return .start (← remote) (← d.get? "paths")
    | "refresh" => return .refresh (← remote) (← d.get? "paths")
    | "path" => return .path (← remote)
    | "down" => return .pathDown (← remote) (← d.get? "fp") (← d.get? "iface")
    | "close" => return .close (← remote)
    | "handle_of" => return .handleOf (← remote) (← d.get? "fp")
    | "resolve" => return .resolve (← d.get? "handle")
    | "names" => return .names
    | "delays" => return .delays
    | "endpoint" => return .endpoints
    | "debug_text" => return .texts
    | "disconnect" => return .disconnect
    | "drop_selector" => return .dropSelector
    | "start" => return .startConnection (← d.get? "conn") (← d.get? "perspective") (← odcid)
    | "emit" => return .emit (← d.get? "conn") (← d.get? "event")
    | "end" => return .closeConnection (← d.get? "conn")
    | "register" => return .register ⟨← d.get? "id"⟩ (← d.get? "perspective") (← odcid)
    | "record" => return .record ⟨← d.get? "id"⟩ (← d.get? "event")
    | "call" => return .call (← d.get? "module") (← d.get? "entry") (← d.get? "args")
    | "heartbeat" => return .startHeartbeat (← d.get? "ms")
    | "stop" => return .stopHeartbeat
    | "running" => return .isBeating
    | "host_name" => return .hostName
    | "sleep" => return .sleep (← d.get? "ms")
    | _ => none⟩

/-- A step that went well and has nothing to show. -/
def fine : Document := .text "ok"

/-- The outcome of a step: its answer, or the error in its place. -/
def outcomeDocument {ε α : Type} [Described ε] [Described α] : Except ε α → Document
  | .ok a => describe a
  | .error e => describe e

def updateDocument {ε : Type} [Described ε] : Except ε Unit → Document
  | .ok () => fine
  | .error e => describe e

/-- Which components a report shows, by position. -/
structure View where
  clients : List Nat := []
  handleBooks : List Nat := []
  connectionBooks : List Nat := []
  logBooks : List Nat := []

/-- A view of everything there is. -/
def View.ofWorld (w : World) : View where
  clients := List.range w.clients.length
  handleBooks := List.range w.handleBooks.length
  connectionBooks := List.range w.connectionBooks.length
  logBooks := List.range w.logBooks.length

structure Session where
  world : World
  selector : Selector World
  tracer : Tracer World
  nodes : List Node
  view : View
  /-- The host of the script that is called directly. -/
  host : Nat := 0
  farewell : World → World := id
  /-- The path objects given so far. -/
  given : List PathObject := []
  /-- The remotes named so far. -/
  named : List RemoteAddress := []
  connections : List (String × TracedConnection) := []
  /-- Whether the time taken is reported. -/
  timed : Bool := false

namespace Session

/-- The session of a selector and a tracer that were just put together. -/
def ofAssembly (a : Assembly) (S : Selector World) (T : Tracer World) : Session where
  world := a.world
  selector := S
  tracer := T
  nodes := a.nodes
  view := View.ofWorld a.world
  farewell := a.farewell

/-- Runs a procedure to its end. -/
def run {α : Type} (s : Session) (p : Procedure World α) : α × Session :=
  let (a, world) := p.run World.elapse s.world
  (a, { s with world })

def update (s : Session) (p : Procedure World (Except PolicyError Unit)) : Document × Session :=
  let (outcome, s) := s.run p
  (updateDocument outcome, s)

/-! ## What a session shows -/

def Node.name : Node → String × Option SelectorKind
  | .failover => ("default", some .default)
  | .delayed _ => ("debug", none)
  | .proxy .. => ("remote", some .remote)
  | .script .. => ("script", some .script)

/-- The remotes named so far that a table knows, with the number of their live keys. -/
def liveKeys {κ : Type} [DecidableEq κ] (s : Session) (t : OfferTable κ) : Document :=
  .record (s.named.filterMap fun r =>
    if t.containsRemote r then some (r.text, describe (t.count r)) else none)

def handles (s : Session) : List Document :=
  s.nodes.filterMap fun
    | .proxy state _ => some (s.liveKeys ((World.proxy state).get s.world).handles.toOfferTable)
    | .script state _ => some (s.liveKeys ((World.scriptSelector state).get s.world).offers)
    | _ => none

/-- How diagnostics show a length of time. -/
def delayText (ms : Nat) : String :=
  if ms = 0 then "0ns"
  else if ms < 1000 then Nat.repr ms ++ "ms"
  else
    let fraction := (Nat.repr (1000 + ms % 1000)).toList.drop 1
    let digits := (fraction.reverse.dropWhile (· == '0')).reverse
    Nat.repr (ms / 1000) ++ (if digits.isEmpty then "" else "." ++ String.ofList digits) ++ "s"

def nodeText (w : World) : Node → Option String
  | .delayed ms => some ("DebugSelector \x7b delay: " ++ delayText ms ++ ", .. \x7d")
  | .script _ host =>
    let h := (World.host host).get w
    some ("ScriptSelector \x7b host: ScriptHost \x7b name: " ++ Text.Quoted.quote h.program.name ++
      ", heartbeat: " ++ (if h.heartbeat.isSome then "true" else "false") ++ " \x7d \x7d")
  | _ => none

/-- How many clients each server of a selector knows. -/
def clientCounts (s : Session) : List Nat :=
  s.view.handleBooks.map fun i => ((World.handleBook i).get s.world).clientCount

/-- How many connections each server of a tracer knows. -/
def connectionCounts (s : Session) : List Nat :=
  s.view.connectionBooks.map fun i => ((World.connectionBook i).get s.world).connectionCount

def texts (s : Session) : Document :=
  let w := s.world
  .record [
    ("clients", describe (s.view.clients.map fun i => ((World.client i).get w).text)),
    ("sel_servers", describe (s.clientCounts.map fun n =>
      "SelectorServer \x7b clients: " ++ Nat.repr n ++ " \x7d")),
    ("trace_servers", describe (s.connectionCounts.map fun n =>
      "TracerServer \x7b connections: " ++ Nat.repr n ++ " \x7d")),
    ("conns", .record (s.connections.map fun (name, c) => (name, .text c.text))),
    ("selectors", describe (s.nodes.filterMap (nodeText w)))]

/-- A part of a report, left out when there is nothing in it. -/
def unlessEmpty (key : String) : List Document → List (String × Document)
  | [] => []
  | items => [(key, .list items)]

/-- What components let the observer know since the last report. -/
def news (w : World) : List (String × Document) :=
  unlessEmpty "calls" (w.calls.map describe) ++ unlessEmpty "seen" (w.notes.map describe) ++
    unlessEmpty "log" (w.log.map describe)

def forget (w : World) : World := { w with calls := [], notes := [], log := [] }

/-- How the components stand. -/
def standing (s : Session) : List (String × Document) :=
  let w := s.world
  unlessEmpty "handles" s.handles ++
    unlessEmpty "sel_clients" (s.clientCounts.map describe) ++
    unlessEmpty "traced" (s.connectionCounts.map describe) ++
    unlessEmpty "open" (s.view.logBooks.map fun i =>
      describe ((World.logBook i).get w).openConnections) ++
    unlessEmpty "conn" (s.view.clients.map fun i =>
      let c := (World.client i).get w
      .list [describe c.closed, describe c.pendingCalls])

/-! ## Steps -/

/-- The objects of an offer. -/
def offer (s : Session) (paths : List Offered) : Option (List PathObject × Session) := do
  let (objects, given) ← Offered.objects s.given paths
  return (objects, { s with given })

/-- The first selector that hands out handles or tables. -/
def firstHolder (s : Session) : Option Node :=
  s.nodes.find? fun | .proxy .. | .script .. => true | _ => false

def step (s : Session) : Step → Option (Document × Session)
  | .start r paths => do
    let (objects, s) ← s.offer paths
    return s.update (s.selector.start r objects)
  | .refresh r paths => do
    let (objects, s) ← s.offer paths
    return s.update (s.selector.refresh r objects)
  | .path r =>
    let (outcome, s) := s.run (s.selector.path r)
    some (outcomeDocument outcome, s)
  | .pathDown r f i => some (s.update (s.selector.pathDown r f i))
  | .close r => some (s.update (s.selector.close r))
  | .handleOf r f =>
    let found :=
      match s.firstHolder with
      | some (.proxy state _) => describe (((World.proxy state).get s.world).handles.keyOf r f)
      | some (.script state _) =>
        describe (((World.scriptSelector state).get s.world).offers.keyOf r f).isSome
      | _ => .absent
    some (found, s)
  | .resolve h =>
    let found : Option PathObject :=
      match s.firstHolder with
      | some (.proxy state _) => ((World.proxy state).get s.world).handles.resolve h
      | _ => none
    some (describe found, s)
  | .names =>
    let shown := s.nodes.map fun n =>
      let (name, kind) := Node.name n
      Document.list [.text name, describe (kind.map SelectorKind.name)]
    some (.list shown, s)
  | .delays =>
    some (describe (s.nodes.filterMap fun | .delayed ms => some ms | _ => none), s)
  | .endpoints =>
    let shown := s.nodes.filterMap fun
      | .proxy _ i => some ((World.client i).get s.world).endpoint
      | _ => none
    some (describe shown, s)
  | .texts => some (s.texts, s)
  | .disconnect =>
    let world := s.view.clients.foldl
      (fun w i => (World.client i).modify Call.Client.receiveEnd w) s.world
    some (fine, { s with world := World.elapse 1 world })
  | .dropSelector =>
    some (fine, { s with
      world := s.farewell s.world
      nodes := []
      view := { s.view with clients := [] }
      farewell := id })
  | .startConnection name side odcid =>
    match s.run (TracedConnection.start s.tracer World.tracingIds side odcid) with
    | (.error e, s) => some (describe e, s)
    | (.ok c, s) =>
      some (.record [("id", describe c.id.number), ("perspective", .text (toString side))],
        { s with connections := s.connections.filter (·.1 ≠ name) ++ [(name, c)] })
  | .emit name event => do
    let c ← s.connections.lookup name
    return s.update (c.emit s.tracer event)
  | .closeConnection name => do
    let c ← s.connections.lookup name
    let s := { s with connections := s.connections.filter (·.1 ≠ name) }
    return s.update (c.close s.tracer)
  | .register id side odcid => some (s.update (s.tracer.register id side odcid))
  | .record id event => some (s.update (s.tracer.record id event))
  | .call module entry arguments =>
    let P := ((World.host s.host).get s.world).program
    match (World.script P s.host).invoke module entry arguments s.world with
    | (.ok values, world) => some (.record [("returns", describe values)], { s with world })
    | (.error e, world) => some (describe e, { s with world })
  | .startHeartbeat ms =>
    some (describe true, { s with world := World.startHeartbeat ms s.host s.world })
  | .stopHeartbeat => some (describe false, { s with world := World.stopHeartbeat s.host s.world })
  | .isBeating => some (describe (World.isBeating s.host s.world), s)
  | .hostName => some (describe ((World.host s.host).get s.world).program.name, s)
  | .sleep ms => some (fine, { s with world := World.elapse ms s.world })

/-- Takes a step and reports on it. -/
def report (s : Session) (st : Step) : Option (Document × Session) := do
  let before := s.world.now
  let s :=
    match st.remote? with
    | some r => if s.named.contains r then s else { s with named := s.named ++ [r] }
    | none => s
  let (r, s) ← s.step st
  let time := if s.timed then [("ms", describe (s.world.now - before))] else []
  return (.record ([("r", r)] ++ time ++ news s.world ++ s.standing),
    { s with world := forget s.world })

def reportAll (s : Session) : List Step → Option (List Document)
  | [] => some []
  | st :: steps => do
    let (shown, s) ← s.report st
    return shown :: (← reportAll s steps)

end Session

/-! ## Descriptions of sessions -/

/-- A script read from a file, with its heartbeat running. -/
structure ScriptFile where
  program : Script.Program
  heartbeat : Nat
  missing : Bool := false

inductive SessionSelector
  | none
  | described (spec : SelectorSpec)
  | scriptFile (file : ScriptFile)

structure SessionSpec where
  selector : SessionSelector
  tracer : TracerSpec
  script : Option Script.Program
  timed : Bool
  steps : List Step

instance : Readable SessionSpec :=
  ⟨fun d => do
    let selector ←
      match d.field "selector" with
      | .absent => pure .none
      | spec =>
        if ((spec.get? "kind" : Option String) == some "script_file") then
          pure (.scriptFile ⟨← spec.get? "script", ← spec.get? "heartbeat_ms",
            ← spec.getD "missing" false⟩)
        else pure (.described (← Readable.read? spec))
    return {
      selector
      tracer := ← d.getD "tracer" .silent
      script := ← d.get? "script"
      timed := ← d.getD "timed" false
      steps := ← d.get? "steps" }⟩

/-- The selector of a session; without one, the one that is used when nothing is said. -/
def SessionSelector.construct : SessionSelector → Construction (Selector World)
  | .none => do return failoverSelector.within (World.failover (← Assembly.addFailover))
  | .described spec => Assembly.selector spec
  | .scriptFile file => do
    if file.missing then throw (.load file.program.name "")
    let host ← Assembly.addHost { program := file.program }
    modify fun a => { a with world := World.startHeartbeat file.heartbeat host a.world }
    let state ← Assembly.addScripted
    Assembly.addNode (.script state host)
    return Script.selector (World.script file.program host) (World.scriptSelector state)

namespace SessionSpec

def construct (spec : SessionSpec) : Construction Session := do
  if let some P := spec.script then
    let _ ← Assembly.addHost { program := P }
  let S ← spec.selector.construct
  let T ← Assembly.tracer spec.tracer
  return { Session.ofAssembly (← get) S T with timed := spec.timed }

/-- The reports on all steps, or why the session cannot begin. -/
def answer (spec : SessionSpec) : Option Document :=
  match spec.construct.run {} with
  | .error (.load name _) =>
    match spec.selector with
    | .scriptFile _ => some (.record [("error", .text "Script.Load")])
    | _ => some (.record [("error", .text "Script.Load"), ("name", .text name)])
  | .error e => some (describe e)
  | .ok (s, _) => do return .record [("steps", .list (← s.reportAll spec.steps))]

end SessionSpec

end PathPolicy.Scenario
