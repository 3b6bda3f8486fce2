import PathPolicy.Remote.Tracer
import PathPolicy.Scenario.PreparedEnd
import PathPolicy.Scenario.Specification
import PathPolicy.Script.Tracer
import PathPolicy.Selector.Delayed

/-!
# Putting components together

An `Assembly` is a world under construction. Assembling a description adds the state of its
components to the world and gives a selector or tracer that works on it.
-/

namespace PathPolicy.Scenario

open Telemetry

/-- A selector as seen from outside. -/
inductive Node
  | failover
  | delayed (ms : Nat)
  /-- By the positions of its state and its client. -/
  | proxy (state client : Nat)
  /-- By the positions of its state and its host. -/
  | script (state host : Nat)
  deriving DecidableEq

structure Assembly where
  world : World := {}
  /-- The selectors, innermost first. -/
  nodes : List Node := []
  /-- What happens in the world when the outermost selector goes away with its client. -/
  farewell : World → World := id
  /-- Whether calls may go on at the same time. -/
  shared : Bool := false

/-- Construction, which ends if a script does not load. -/
abbrev Construction := StateT Assembly (Except ScriptError)

namespace Assembly

/-- Adds the state of a component and answers with its position. -/
def add {τ : Type} (get : World → List τ) (set : List τ → World → World) (t : τ) :
    Construction Nat :=
  modifyGet fun a =>
    ((get a.world).length, { a with world := set (get a.world ++ [t]) a.world })

def addFailover : Construction Nat :=
  add World.failovers (fun l w => { w with failovers := l }) {}

def addRecord : Construction Nat :=
  add World.recorded (fun l w => { w with recorded := l }) []

def addScripted : Construction Nat :=
  add World.scripted (fun l w => { w with scripted := l }) {}

def addProxy : Construction Nat := add World.proxies (fun l w => { w with proxies := l }) {}

def addClient (c : Call.Client) : Construction Nat :=
  add World.clients (fun l w => { w with clients := l }) c

def addHandleBook : Construction Nat :=
  add World.handleBooks (fun l w => { w with handleBooks := l }) {}

def addConnectionBook : Construction Nat :=
  add World.connectionBooks (fun l w => { w with connectionBooks := l }) {}

def addLogBook : Construction Nat := add World.logBooks (fun l w => { w with logBooks := l }) {}

def addPrepared (answers : List Prepared) : Construction Nat :=
  add World.prepared (fun l w => { w with prepared := l }) answers

/-- Loads a program. -/
def addHost (h : Host) : Construction Nat :=
  match h.program.fault with
  | some _ => throw (.load h.program.name "")
  | none => add World.hosts (fun l w => { w with hosts := l }) h

/-- Adds the stream between a client and a prepared far end. -/
def addWire (x : Wire) : Construction Nat :=
  add World.wires (fun l w => { w with wires := l }) x

def addNode (n : Node) : Construction Unit := modify fun a => { a with nodes := a.nodes ++ [n] }

/-- The host of a script: its own, or the common one, which is the first. -/
def hostOf (program : Option Script.Program) : Construction (Nat × Script.Program) := do
  match program with
  | some P => return (← addHost { program := P }, P)
  | none => return (0, ((World.host 0).get (← get).world).program)

end Assembly

/-! ## Components that are watched -/

def failureOf (failures : Failures) (operation : String) : Except PolicyError Unit :=
  match failures.lookup operation with
  | none => .ok ()
  | some e => .error e

/-- Notes each call and remembers the latest offer, for whichever remote. -/
def recordingSelector (i : Nat) (pick : Pick) (failures : Failures) : Selector World :=
  let remembered := World.recordedOffer i
  let offer (operation : String) (r : RemoteAddress) (paths : List PathObject) (w : World) :=
    let fingerprints := describe (paths.map (·.fingerprint))
    (failureOf failures operation,
      remembered.set paths (w.note (.selector operation r [fingerprints])))
  { start := fun r paths => .stretch (offer "initialize" r paths)
    path := fun r => .stretch fun w =>
      let paths := remembered.get w
      let chosen : Option PathObject :=
        match pick with
        | .last => paths.getLast?
        | .first => paths.head?
        | .nothing => none
        | .foreign => some ⟨none, .plain ⟨"foreign"⟩⟩
      ((failureOf failures "path").map fun _ => chosen, w.note (.selector "path" r []))
    pathDown := fun r f i => .stretch fun w =>
      (failureOf failures "path_down",
        w.note (.selector "path_down" r [describe f, describe i]))
    refresh := fun r paths => .stretch (offer "refresh" r paths)
    close := fun r => .stretch fun w =>
      (failureOf failures "close", w.note (.selector "close" r [])) }

def recordingTracer (failures : Failures) : Tracer World where
  register id side odcid := .stretch fun w =>
    (failureOf failures "register", w.note (.registered id side odcid))
  record id e := .stretch fun w =>
    (failureOf failures e.kind.name, w.note (.recorded id e))

/-- Calls over the client at `i`. Whatever is due goes first. -/
def callerOf (i : Nat) (far : Call.FarEnd World) : Call.Caller World :=
  (World.client i |> Call.Client.caller) fun bytes => do
    .write World.catchUp
    far bytes

/-! ## From descriptions -/

namespace Assembly

/-- Serves a selector, with the handles its callers tell in a new book. -/
def serveSelector (S : Selector World) (server : Call.Server World) :
    Construction (Call.Server World) := do
  return Remote.registerSelector S (World.handleBook (← addHandleBook)) server

/-- Serves a tracer, with the connections of its callers in a new book. -/
def serveTracer (T : Tracer World) (server : Call.Server World) :
    Construction (Call.Server World) := do
  return Remote.registerTracer T (World.connectionBook (← addConnectionBook)) server

/-- The first client of a server. -/
def firstClient : ClientId := ⟨1⟩

def selector : SelectorSpec → Construction (Selector World)
  | .failover => do
    let i ← addFailover
    addNode .failover
    return failoverSelector.within (World.failover i)
  | .delayed ms none => do
    let i ← addFailover
    addNode (.delayed ms)
    return (failoverSelector.within (World.failover i)).delayed ms
  | .delayed ms (some inner) => do
    let S ← selector inner
    addNode (.delayed ms)
    return S.delayed ms
  | .recording pick failures => do return recordingSelector (← addRecord) pick failures
  | .remote inner clientLimit serverLimit => do
    let S ← selector inner
    let server ← serveSelector S { frameLimit := serverLimit }
    let client ← addClient { endpoint := "duplex", frameLimit := clientLimit }
    let state ← addProxy
    addNode (.proxy state client)
    modify fun a => { a with farewell := server.release firstClient }
    return Remote.selector (callerOf client (server.farEnd firstClient)) (World.proxy state)
  | .prepared answers clientLimit => do
    let far ← addPrepared answers
    let client : Call.Client := { endpoint := "peer", frameLimit := clientLimit }
    let client ← addClient (if answers.isEmpty then client.receiveEnd else client)
    let state ← addProxy
    addNode (.proxy state client)
    if (← get).shared then
      let _ ← addWire { client, far, parting := answers.isEmpty }
      return Remote.selector (sharedCallerOf client) (World.proxy state)
    return Remote.selector (callerOf client (preparedFarEnd far)) (World.proxy state)
  | .script program => do
    let (host, P) ← hostOf program
    let state ← addScripted
    addNode (.script state host)
    return Script.selector (World.script P host) (World.scriptSelector state)

def logging : Construction (Tracer World) := do
  return Tracer.logging (World.logBook (← addLogBook)) fun l => World.write (.line l)

def tracer : TracerSpec → Construction (Tracer World)
  | .silent => return Tracer.silent
  | .logging => logging
  | .recording failures => return recordingTracer failures
  | .script program => do
    let (host, P) ← hostOf program
    return Script.tracer (World.script P host)
  | .forward inner clientLimit serverLimit => do
    let T ← tracer inner
    let server ← serveTracer T { frameLimit := serverLimit }
    let client ← addClient { endpoint := "duplex", frameLimit := clientLimit }
    return Remote.tracer (callerOf client (server.farEnd firstClient))

end Assembly

end PathPolicy.Scenario
