import PathPolicy.Codec.Basic
import PathPolicy.Procedure

/-!
# Typed calls

A `Caller` carries a request payload to a named method and brings back its response.
`Caller.request` does so with values, under the codecs of the method.
-/

namespace PathPolicy.Call

variable {σ τ α β : Type}

structure Caller (σ : Type) where
  call : String → List UInt8 → Procedure σ (Except CallError (List UInt8))

/-- What a response is to the caller of a method; an error of the method bears its name. -/
def settleReply (method : String) (output : Codec β) (reply : Except CallError (List UInt8)) :
    Except CallError β :=
  match reply with
  | .ok bytes => output.decodeAs "response" bytes
  | .error (.method _ e) => .error (.method method e)
  | .error e => .error e

namespace Caller

/-- A request that cannot be encoded is never sent. -/
def request (C : Caller σ) (method : String) (input : Codec α) (output : Codec β) (a : α) :
    Procedure σ (Except CallError β) :=
  match input.encodeAs "request" a with
  | .error e => return .error e
  | .ok payload => do return settleReply method output (← C.call method payload)

def within (p : Procedure.Place τ σ) (C : Caller σ) : Caller τ where
  call method payload := (C.call method payload).within p

end Caller

end PathPolicy.Call
