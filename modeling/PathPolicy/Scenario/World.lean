import PathPolicy.Call.Client
import PathPolicy.Remote.Selector
import PathPolicy.Remote.SelectorService
import PathPolicy.Remote.TracerService
import PathPolicy.Script.Program
import PathPolicy.Script.Selector
import PathPolicy.Selector.Failover

/-!
# The world of a scenario

A scenario runs selectors and tracers of every kind next to each other. The state of each component
is kept in a list of its kind, next to a clock that moves only while everything waits, the scripts
with their heartbeats, and what the components let the observer know.
-/

namespace PathPolicy.Scenario

open Telemetry

inductive Note
  | selector (operation : String) (remote : RemoteAddress) (details : List Document)
  | registered (id : TracingId) (side : Perspective) (odcid : ConnectionId)
  | recorded (id : TracingId) (event : ConnectionEvent)
  /-- A request that reached a far end with answers prepared for it. -/
  | request (f : Frame)
  | gone (client : ClientId)

inductive LogEntry
  | script (text : String)
  | line (l : LogLine)

/-- Calls of a script at regular intervals. -/
structure Heartbeat where
  period : Nat
  due : Nat
  last : Nat

structure Host where
  program : Script.Program := {}
  memory : Script.Memory := {}
  heartbeat : Option Heartbeat := none
  /-- Whether the observer is told of calls. -/
  observed : Bool := true
  deriving Inhabited

/-- What a prepared far end answers to a request. -/
inductive Prepared
  | response (outcome : Except MethodError (List UInt8))
  | hangUp

/-- The stream between a client and a prepared far end, in frames that were not read yet. -/
structure Wire where
  client : Nat
  far : Nat
  outbound : List (List UInt8) := []
  inbound : List (List UInt8) := []
  /-- The far end goes away once all that it wrote is on the stream. -/
  parting : Bool := false
  deriving Inhabited

structure World where
  /-- Milliseconds since the start. -/
  now : Nat := 0
  ids : TracingIdAllocator := {}
  failovers : List FailoverState := []
  /-- The latest offer that each recording selector was told of. -/
  recorded : List (List PathObject) := []
  scripted : List Script.SelectorState := []
  proxies : List Remote.ProxyState := []
  clients : List Call.Client := []
  handleBooks : List Remote.HandleBook := []
  connectionBooks : List Remote.ConnectionBook := []
  logBooks : List LogBook := []
  hosts : List Host := []
  /-- What the prepared far ends have still to answer. -/
  prepared : List (List Prepared) := []
  wires : List Wire := []
  calls : List Script.Call := []
  notes : List Note := []
  log : List LogEntry := []
  deriving Inhabited

instance : Inhabited Call.Client := ⟨{ frameLimit := 0 }⟩

namespace World

def element {σ τ : Type} [Inhabited τ] (get : σ → List τ) (set : List τ → σ → σ) (i : Nat) :
    Procedure.Place σ τ where
  get s := (get s)[i]?.getD default
  set t s := set ((get s).set i t) s

def failover : Nat → Procedure.Place World FailoverState :=
  element failovers fun l w => { w with failovers := l }

def recordedOffer : Nat → Procedure.Place World (List PathObject) :=
  element recorded fun l w => { w with recorded := l }

def scriptSelector : Nat → Procedure.Place World Script.SelectorState :=
  element scripted fun l w => { w with scripted := l }

def proxy : Nat → Procedure.Place World Remote.ProxyState :=
  element proxies fun l w => { w with proxies := l }

def client : Nat → Procedure.Place World Call.Client :=
  element clients fun l w => { w with clients := l }

def handleBook : Nat → Procedure.Place World Remote.HandleBook :=
  element handleBooks fun l w => { w with handleBooks := l }

def connectionBook : Nat → Procedure.Place World Remote.ConnectionBook :=
  element connectionBooks fun l w => { w with connectionBooks := l }

def logBook : Nat → Procedure.Place World LogBook :=
  element logBooks fun l w => { w with logBooks := l }

def host : Nat → Procedure.Place World Host := element hosts fun l w => { w with hosts := l }

def answers : Nat → Procedure.Place World (List Prepared) :=
  element prepared fun l w => { w with prepared := l }

def wire : Nat → Procedure.Place World Wire := element wires fun l w => { w with wires := l }

def tracingIds : Procedure.Place World TracingIdAllocator := ⟨ids, fun ids w => { w with ids }⟩

def note (n : Note) (w : World) : World := { w with notes := w.notes ++ [n] }

def write (e : LogEntry) (w : World) : World := { w with log := w.log ++ [e] }

/-- Where the script of a host keeps its memory, and who is told of what it does. -/
def surroundings (i : Nat) : Script.Program.Surroundings World where
  memory :=
    { get := fun w => ((host i).get w).memory
      set := fun m w => (host i).modify (fun h => { h with memory := m }) w }
  called c w := if ((host i).get w).observed then { w with calls := w.calls ++ [c] } else w
  logged text := write (.script text)

/-- The script of a host, when `P` is the program loaded there. -/
def script (P : Script.Program) (i : Nat) : Script World := P.script (surroundings i)

/-! ## Time -/

/-- Calls the script of a host if its heartbeat is due; nothing depends on the outcome. -/
def beat (w : World) (i : Nat) : World :=
  let h := (host i).get w
  match h.heartbeat with
  | none => w
  | some b =>
    if b.due ≤ w.now then
      let elapsed := (Span.ofMilliseconds (w.now - b.last)).toFloat.toBits
      let (_, w) :=
        (script h.program i).invoke Script.selectorModule "periodic" [.double elapsed] w
      (host i).modify
        (fun h => { h with heartbeat := some ⟨b.period, b.due + b.period, w.now⟩ }) w
    else w

def catchUp (w : World) : World := (List.range w.hosts.length).foldl beat w

/-- Lets time pass. A heartbeat due at the very end waits until time passes again. -/
def elapse : Nat → World → World
  | 0, w => w
  | ms + 1, w =>
    if w.hosts.all (·.heartbeat.isNone) then { w with now := w.now + (ms + 1) }
    else elapse ms { w.catchUp with now := w.now + 1 }

/-- Starts the heartbeat of a host, in place of one that is running. -/
def startHeartbeat (period : Nat) (i : Nat) (w : World) : World :=
  (host i).modify (fun h => { h with heartbeat := some ⟨period, w.now + period, w.now⟩ }) w

def stopHeartbeat (i : Nat) (w : World) : World :=
  (host i).modify (fun h => { h with heartbeat := none }) w

def isBeating (i : Nat) (w : World) : Bool := ((host i).get w).heartbeat.isSome

end World

end PathPolicy.Scenario
