import PathPolicy.Call.Caller
import PathPolicy.Remote.TracerMessageCodec
import PathPolicy.Telemetry.Tracer

/-!
# A tracer at the far end of a connection

Every registration and every event is one call.
-/

namespace PathPolicy.Remote

open Telemetry

variable {σ : Type}

/-- One call of which only success matters. -/
def forward (C : Call.Caller σ) (method : String) (m : TracerMessage) :
    Procedure σ (Except PolicyError Unit) := do
  return (← C.request method Codec.tracerMessage Codec.unit m).mapError .call

/-- The tracer that calls through `C`. -/
def tracer (C : Call.Caller σ) : Tracer σ where
  register id side odcid :=
    forward C TracerMessage.registrationMethod (.registration id side odcid)
  record id e := forward C (TracerMessage.methodFor e.kind) (.ofEvent id e)

end PathPolicy.Remote
