import PathPolicy.Call.Connection
import PathPolicy.Policy
import PathPolicy.PolicySelector
import PathPolicy.Remote.SelectorService
import PathPolicy.Remote.TracerService
import PathPolicy.Selector.Delayed
import PathPolicy.Selector.Failover

/-!
# A service without scripts

What a daemon keeps that serves one client and has no way to run scripts: policies built in such an
environment select by default, and trace to the log or not at all.
-/

namespace PathPolicy

open Telemetry

/-- Nothing to connect to, and no script that loads. -/
def Environment.bare : Environment where
  connects _ := false
  loads _ := false

structure Service where
  failover : FailoverState := {}
  handles : Remote.HandleBook := {}
  connections : Remote.ConnectionBook := {}
  book : LogBook := {}
  /-- Lines of the log that have still to be shown. -/
  log : List LogLine := []

namespace Service

def policySelector (p : Policy) : PolicySelector Service :=
  let S : PolicySelector Service :=
    ⟨some p.selectorKind, failoverSelector.within ⟨failover, fun failover s => { s with failover }⟩⟩
  match p.delay with
  | none => S
  | some ms => ⟨none, S.selector.delayed ms.toNat⟩

def selector (p : Policy) : Selector Service := (policySelector p).selector

def tracer (p : Policy) : Tracer Service :=
  match p.tracer with
  | .logging =>
    Tracer.logging ⟨book, fun book s => { s with book }⟩ fun l s => { s with log := s.log ++ [l] }
  | _ => Tracer.silent

/-- The server of the daemon's methods. -/
def server (p : Policy) (frameLimit : Nat) : Call.Server Service :=
  let handlesPlace : Procedure.Place Service Remote.HandleBook :=
    ⟨handles, fun handles s => { s with handles }⟩
  let connectionsPlace : Procedure.Place Service Remote.ConnectionBook :=
    ⟨connections, fun connections s => { s with connections }⟩
  ({ frameLimit } : Call.Server Service)
    |> Remote.registerSelector (selector p) handlesPlace
    |> Remote.registerTracer (tracer p) connectionsPlace

/-- How a line of the log is shown: the message, and the other fields with their names. -/
def lineText (l : LogLine) : String :=
  let field (entry : String × String) : String :=
    if entry.1 = "message" then entry.2 else entry.1 ++ "=" ++ entry.2
  " ".intercalate (l.level.name :: l.fields.map field)

end Service

end PathPolicy
