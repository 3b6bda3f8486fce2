import PathPolicy.Codec.Basic
import PathPolicy.Dictionary
import PathPolicy.Identity
import PathPolicy.Procedure
import PathPolicy.Text.Quoted

/-!
# Methods that can be called

A `Server` is a registry of named methods over a shared state, and of what to do when a client is
gone. A method gets the number of the client that calls it. The payload is decoded before and the
answer encoded after the method proper, so a payload that does not decode never reaches it.
-/

namespace PathPolicy.Call

variable {σ τ α β : Type}

/-- Answers the payload of a client's request. -/
abbrev Handler (σ : Type) :=
  ClientId → List UInt8 → Procedure σ (Except MethodError (List UInt8))

structure Server (σ : Type) where
  handlers : Dictionary String (Handler σ) := {}
  /-- What is done when a client is gone, in order. -/
  farewells : List (ClientId → σ → σ) := []
  frameLimit : Nat := 1048576

namespace Server

def undecodable (method : String) (fault : DecodeFault) : MethodError :=
  ⟨.internal, method ++ ": undecodable request: " ++ fault.message⟩

theorem undecodable_eq (method : String) (fault : DecodeFault) :
    undecodable method fault =
      ⟨.internal, method ++ ": undecodable request: " ++ fault.message⟩ := rfl

def unencodable (method : String) (fault : EncodeFault) : MethodError :=
  ⟨.internal, method ++ ": unencodable response: " ++ fault.message⟩

/-- A handler of bytes made of one of values. -/
def handler (method : String) (input : Codec α) (output : Codec β)
    (answer : ClientId → α → Procedure σ (Except MethodError β)) : Handler σ :=
  fun client payload =>
    match input.decode payload with
    | .error fault => return .error (undecodable method fault)
    | .ok (a, _) => do
      match ← answer client a with
      | .error e => return .error e
      | .ok b =>
        match output.encode b with
        | .error fault => return .error (unencodable method fault)
        | .ok bytes => return .ok bytes

/-- Of several methods registered under one name, the last answers. -/
def register (S : Server σ) (method : String) (input : Codec α) (output : Codec β)
    (answer : ClientId → α → Procedure σ (Except MethodError β)) : Server σ :=
  { S with handlers := S.handlers.insert method (handler method input output answer) }

def onFarewell (S : Server σ) (farewell : ClientId → σ → σ) : Server σ :=
  { S with farewells := S.farewells ++ [farewell] }

def hasMethod (S : Server σ) (method : String) : Bool := S.handlers.contains method

/-- The names of the methods in alphabetical order. -/
def methods (S : Server σ) : List String := S.handlers.keys.mergeSort fun a b => decide (a ≤ b)

def dispatch (S : Server σ) (client : ClientId) (method : String) (payload : List UInt8) :
    Procedure σ (Except MethodError (List UInt8)) :=
  match S.handlers.get? method with
  | none => return .error (.unknownMethod method)
  | some handler => handler client payload

/-- Everything that is done when a client is gone. -/
def release (S : Server σ) (client : ClientId) (s : σ) : σ :=
  S.farewells.foldl (fun s farewell => farewell client s) s

def text (S : Server σ) : String :=
  "CallServer \x7b methods: [" ++ ", ".intercalate (S.methods.map Text.Quoted.quote) ++
    "], max_frame_size: " ++ Nat.repr S.frameLimit ++ " \x7d"

end Server

end PathPolicy.Call
