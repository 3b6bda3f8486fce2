import PathPolicy.Call.Connection
import PathPolicy.Scenario.Session

/-!
# Servers under test

A server with a selector and a tracer around which it is built, and with a few methods made for
trying it out. It is either called directly, one method after another, or through connections on
which the bytes sent and received are seen.
-/

namespace PathPolicy.Scenario

open Telemetry

/-! ## Methods for trials -/

namespace Trial

/-- An instant that many seconds after the epoch, or before it. -/
def instantOf (seconds : Int64) : Instant := { Instant.epoch with seconds }

/-- Registers the methods for trials. -/
def register (server : Call.Server World) : Call.Server World :=
  server
    |>.register "Test.Double" Codec.u32 Codec.u32 (fun _ n => return .ok (n + n))
    |>.register "Test.Zeros" Codec.u32 Codec.bytes (fun _ n => return .ok (.replicate n.toNat 0))
    |>.register "Test.WhoAmI" Codec.unit Codec.text (fun c _ => return .ok (toString c))
    |>.register "Test.Fail" Codec.text Codec.unit (fun _ why => return .error ⟨.policy, why⟩)
    |>.register "Test.Slow" Codec.u64 Codec.u64 (fun _ ms => do
      .pause ms.toNat
      return .ok ms)
    |>.register "Test.Early" Codec.i64 Codec.instant (fun _ s => return .ok (instantOf s))
    |>.register "Test.Twice" Codec.u32 Codec.u32 (fun _ n => return .ok n)
    |>.register "Test.Twice" Codec.u32 Codec.u32 (fun _ n => return .ok (n + n))

end Trial

/-- What a server is built around. -/
structure ServerSpec where
  selector : Option SelectorSpec
  tracer : Option TracerSpec
  trials : Bool
  frameLimit : Nat

instance : Readable ServerSpec :=
  ⟨fun d => do
    return {
      selector := ← d.get? "selector"
      tracer := ← d.get? "tracer"
      trials := ← d.getD "test_methods" false
      frameLimit := ← d.getD "max" usualLimit }⟩

/-- A server in its world. The books of its own selector and tracer are known by position. -/
structure Served where
  server : Call.Server World
  world : World
  handleBook : Option Nat := none
  connectionBook : Option Nat := none

namespace ServerSpec

def construct (spec : ServerSpec) : Construction Served := do
  let mut server : Call.Server World := { frameLimit := spec.frameLimit }
  let mut handleBook := none
  let mut connectionBook := none
  if let some selector := spec.selector then
    let S ← Assembly.selector selector
    handleBook := some (← get).world.handleBooks.length
    server ← Assembly.serveSelector S server
  if let some tracer := spec.tracer then
    let T ← Assembly.tracer tracer
    connectionBook := some (← get).world.connectionBooks.length
    server ← Assembly.serveTracer T server
  if spec.trials then server := Trial.register server
  return { server, world := (← get).world, handleBook, connectionBook }

end ServerSpec

namespace Served

/-- What components let the observer know, and how many clients and connections are known. -/
def report (s : Served) (fields : List (String × Document)) : Document × Served :=
  let count (key : String) (n : Option Nat) : List (String × Document) :=
    match n with
    | none => []
    | some n => [(key, describe n)]
  let w := s.world
  (.record (fields ++ Session.unlessEmpty "seen" (w.notes.map describe) ++
    Session.unlessEmpty "log" (w.log.map describe) ++
    count "sel_clients" (s.handleBook.map fun i => ((World.handleBook i).get w).clientCount) ++
    count "traced"
      (s.connectionBook.map fun i => ((World.connectionBook i).get w).connectionCount)),
    { s with world := Session.forget w })

/-! ## Called directly -/

/-- A method error, and whether the call lacked a field. -/
def errorDocument (e : MethodError) : Document :=
  .record [("err", describe e), ("malformed", describe (PolicyError.malformed e).isMalformed)]

def dispatchStep (s : Served) (d : Document) : Option (Document × Served) := do
  let answer {α : Type} [Described α] (a : α) (s : Served) : Document × Served :=
    s.report [("r", describe a)]
  match ← d.get? "do" with
  | "call" =>
    let p := s.server.dispatch ⟨← d.get? "client"⟩ (← d.get? "method") (← payloadOf? d)
    match p.run World.elapse s.world with
    | (.ok bytes, world) =>
      return answer (Document.record [("ok", describe (HexBytes.mk bytes))]) { s with world }
    | (.error e, world) => return answer (errorDocument e) { s with world }
  | "release" =>
    let client ← d.get? "client"
    return answer fine { s with world := s.server.release ⟨client⟩ s.world }
  | "methods" => return answer s.server.methods s
  | "has" => return answer (s.server.hasMethod (← d.get? "method")) s
  | "debug_text" => return answer s.server.text s
  | _ => none

end Served

/-- Takes steps one after another and collects the reports. -/
def reports {σ : Type} (step : σ → Document → Option (Document × σ)) :
    σ → List Document → Option (List Document)
  | _, [] => some []
  | s, d :: ds => do
    let (shown, s) ← step s d
    return shown :: (← reports step s ds)

/-- The reports on the steps of a description, taken from the state it starts with. -/
def answerSteps {σ : Type} (d : Document) (construct : Construction σ)
    (step : σ → Document → Option (Document × σ)) : Option Document := do
  match construct.run {} with
  | .error e => return describe e
  | .ok (s, _) => return .record [("steps", .list (← reports step s (← d.get? "steps")))]

/-- Answers a description of direct calls. -/
def answerDispatch (d : Document) : Option Document := do
  let spec : ServerSpec ← Readable.read? d
  answerSteps d spec.construct Served.dispatchStep

/-! ## Called through connections -/

/-- A connection of which both ends are in view. -/
structure Line where
  name : String
  connection : Call.Connection World
  /-- The client has turned away for good. -/
  dropped : Bool := false

structure Switchboard where
  served : Served
  lines : List Line := []
  nextClient : UInt64 := 1

namespace Switchboard

/-- Everything possible at this moment on the lines, one after another. -/
def settleLines (b : Switchboard) : Switchboard :=
  b.lines.foldl
    (fun b line =>
      let (connection, world) :=
        line.connection.settle b.served.server b.served.world.now b.served.world
      { b with
        served := { b.served with world }
        lines := b.lines ++ [{ line with connection }] })
    { b with lines := [] }

/-- Lets every call that waits for something to go over a stream look again. -/
def wake (b : Switchboard) : Switchboard :=
  let now := b.served.world.now
  let wakeJob (j : Call.Job World) : Call.Job World :=
    if j.due ≥ never then { j with due := now } else j
  { b with lines := b.lines.map fun line =>
      { line with
        connection := { line.connection with jobs := line.connection.jobs.map wakeJob } } }

def settleTurns : Nat → Switchboard → Switchboard
  | 0, b => b.settleLines
  | turns + 1, b =>
    let b := b.settleLines
    match b.served.world.turn with
    | none => b
    | some world => settleTurns turns { b with served := { b.served with world } }.wake

/-- Everything possible at this moment. -/
def settle (b : Switchboard) : Switchboard := b.settleTurns never

/-- Lets time pass, with everything possible done at each moment. -/
def pass : Nat → Switchboard → Switchboard
  | 0, b => b.settle
  | ms + 1, b =>
    let b := b.settle
    pass ms { b with served := { b.served with world := World.elapse 1 b.served.world } }

def line? (b : Switchboard) (name : String) : Option Line := b.lines.find? (·.name = name)

def update (b : Switchboard) (name : String) (f : Line → Line) : Switchboard :=
  { b with lines := b.lines.map fun line => if line.name = name then f line else line }

/-- A new connection under a name. -/
def accept (b : Switchboard) (name : String) : Switchboard :=
  { b with
    lines := b.lines.filter (·.name ≠ name) ++ [⟨name, { client := ⟨b.nextClient⟩ }, false⟩]
    nextClient := b.nextClient + 1 }

/-- The frames and other bytes of a step. -/
def bytesOf (d : Document) : Option (List UInt8) := do
  let raw : HexBytes ← d.getD "hex" ⟨[]⟩
  let frames : List Frame ← d.getD "frames" []
  return raw.bytes ++ frames.flatMap fun f => (f.write Frame.headerBound).toOption.getD []

def act (b : Switchboard) (name : String) (d : Document) : Option (Document × Switchboard) := do
  match ← d.get? "do" with
  | "open" => return (fine, (b.accept name).pass 1)
  | "send" =>
    let line ← b.line? name
    let bytes ← bytesOf d
    if line.connection.ended then return (.text "unwritable", b.pass 1)
    else
      let b := b.update name fun l => { l with connection := l.connection.receive bytes }
      return (fine, b.pass 1)
  | "half_close" =>
    let b := b.settle.update name fun l => { l with connection := l.connection.receiveEnd }
    return (fine, b.pass 1)
  | "drop" =>
    let b := b.settle.update name fun l =>
      { l with connection := l.connection.receiveEnd.writeEnd, dropped := true }
    return (fine, b.pass 1)
  | "wait" => return (fine, b.pass ((← d.get? "ms") + 1))
  | _ => none

def step (b : Switchboard) (d : Document) : Option (Document × Switchboard) := do
  let name ← d.get? "conn"
  let (r, b) ← b.act name d
  let line ← b.line? name
  let (bytes, connection) := line.connection.take
  let b := b.update name fun l => { l with connection }
  let received :=
    if line.dropped then []
    else
      [("frames", describe (Frame.readAll Frame.headerBound bytes).1),
        ("eof", describe connection.ended)]
  let (shown, served) := b.served.report (("r", r) :: received)
  return (shown, { b with served })

end Switchboard

/-- Answers a description of connections to a server. -/
def answerServe (d : Document) : Option Document := do
  let spec : ServerSpec ← Readable.read? d
  answerSteps d
    (do
      modify fun a => { a with shared := true }
      let served ← spec.construct
      let server := served.server.onFarewell fun c => World.note (.gone c)
      return ({ served := { served with server } } : Switchboard))
    Switchboard.step

end PathPolicy.Scenario
