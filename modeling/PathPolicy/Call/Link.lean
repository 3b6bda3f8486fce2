import PathPolicy.Call.Caller
import PathPolicy.Call.Client
import PathPolicy.Call.Connection

/-!
# Calls over a connection used for one call at a time

A `FarEnd` takes the bytes of a request and gives back bytes, and may close the connection. Between
it and a `Client` the stream is all there is: limits and failures take effect as on any connection.
-/

namespace PathPolicy.Call

variable {σ : Type}

/-- What comes back from the far end. -/
structure Transmission where
  bytes : List UInt8 := []
  /-- Nothing more will come. -/
  closes : Bool := false

/-- What happens to the bytes of a request. -/
abbrev FarEnd (σ : Type) := List UInt8 → Procedure σ Transmission

/-- A server that says farewell to the client when it cannot read a request. -/
def Server.farEnd (S : Server σ) (client : ClientId) : FarEnd σ := fun bytes =>
  match Frame.read S.frameLimit bytes with
  | .frame ⟨id, .request method payload⟩ _ => do
    let outcome ← S.dispatch client method payload
    match Connection.responseBytes S.frameLimit ⟨id, .response outcome⟩ with
    | .ok bytes => return { bytes }
    | .error _ => return {}
  | .frame .. => return {}
  | .more _ => return {}
  | .failed _ => do
    .write (S.release client)
    return { closes := true }

/-- The caller whose client is at `p` and is connected to `far`. -/
def Client.caller (p : Procedure.Place σ Client) (far : FarEnd σ) : Caller σ where
  call method payload := do
    let (id, bytes) ← .stretch fun s =>
      let (id, bytes, c) := (p.get s).submit method payload
      ((id, bytes), p.set c s)
    unless bytes.isEmpty do
      let answer ← far bytes
      .write (p.modify fun c =>
        let c := c.receive answer.bytes
        if answer.closes then c.receiveEnd else c)
    .stretch fun s =>
      match (p.get s).returnTo id with
      | (some reply, c) => (reply, p.set c s)
      | (none, c) => (.error c.lostError, p.set (c.abandon id) s)

end PathPolicy.Call
