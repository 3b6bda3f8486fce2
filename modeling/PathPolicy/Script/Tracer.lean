import PathPolicy.Script.Host
import PathPolicy.Script.Table
import PathPolicy.Telemetry.Tracer

/-!
# Telemetry for a script

Every event is offered to the entry point of its name. A script that does not define one does not
see the event, and nobody is told.
-/

namespace PathPolicy.Script

open Telemetry

variable {σ : Type}

/-- The entry point told of new connections. -/
def registrationEntry : String := "TracerForConnection"

/-- Calls an entry point that need not be there. -/
def notify (S : Script σ) (entry : String) (arguments : List Value) (s : σ) :
    Except PolicyError Unit × σ :=
  match S.invoke tracerModule entry arguments s with
  | (.ok _, s) => (.ok (), s)
  | (.error (.notImplemented _), s) => (.ok (), s)
  | (.error e, s) => (.error (.script e), s)

def tracer (S : Script σ) : Tracer σ where
  register id side odcid := .stretch
    (S.notify registrationEntry [.ofUInt64 id.number, .text (toString side),
      .text (toString odcid)])
  record id e := .stretch fun s =>
    match e.payload with
    | .error fault =>
      (.error (.script (.runtime e.kind.name ("serialize error: " ++ fault.message))), s)
    | .ok payload => S.notify e.kind.name [.ofUInt64 id.number, payload] s

end PathPolicy.Script
