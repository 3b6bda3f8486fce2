import PathPolicy.Identity

/-!
# What can go wrong

One inductive type per layer, each with its `message`. `PolicyError` is their sum, as selectors
and tracers report it. `PolicyError.toMethodError` is what a caller at the far end of a connection
is told: a method error goes on unchanged, so a failure keeps its kind over any number of hops.
-/

namespace PathPolicy

inductive MethodErrorKind
  | unknownMethod
  | missingField
  | unknownTracingId
  | misuse
  | policy
  | internal
  deriving DecidableEq, Inhabited

def MethodErrorKind.name : MethodErrorKind → String
  | .unknownMethod => "UnknownMethod"
  | .missingField => "MissingField"
  | .unknownTracingId => "UnknownTracingId"
  | .misuse => "Misuse"
  | .policy => "Policy"
  | .internal => "Internal"

/-- How a called method reports failure to its caller. -/
structure MethodError where
  kind : MethodErrorKind
  message : String
  deriving DecidableEq, Inhabited

namespace MethodError

def text (e : MethodError) : String := e.kind.name ++ ": " ++ e.message

def missingField (method field : String) : MethodError :=
  ⟨.missingField, method ++ ": missing required field `" ++ field ++ "`"⟩

theorem missingField_eq (method field : String) :
    missingField method field =
      ⟨.missingField, method ++ ": missing required field `" ++ field ++ "`"⟩ := rfl

/-- The value of a field that a method requires. -/
def required {α : Type} (method field : String) (value : Option α) : Except MethodError α :=
  match value with
  | none => .error (missingField method field)
  | some a => .ok a

def unknownMethod (method : String) : MethodError :=
  ⟨.unknownMethod, "no method registered as `" ++ method ++ "`"⟩

theorem unknownMethod_eq (method : String) :
    unknownMethod method = ⟨.unknownMethod, "no method registered as `" ++ method ++ "`"⟩ := rfl

def unknownTracingId (method : String) (id : TracingId) : MethodError :=
  ⟨.unknownTracingId, method ++ ": tracing id " ++ toString id ++ " was never registered"⟩

theorem unknownTracingId_eq (method : String) (id : TracingId) :
    unknownTracingId method id = ⟨.unknownTracingId,
      method ++ ": tracing id " ++ Nat.repr id.number.toNat ++ " was never registered"⟩ := rfl

end MethodError

inductive SelectorError
  | remoteClosed (remote : RemoteAddress) (operation : String)
  deriving DecidableEq

def SelectorError.message : SelectorError → String
  | .remoteClosed r op => "Remote " ++ r.text ++ " is closed: " ++ op ++ " is not allowed"

inductive CallError
  | connect (endpoint reason : String)
  | connectionLost (reason : String)
  | frameTooLarge (size limit : Nat)
  | encode (what reason : String)
  | decode (what reason : String)
  | method (method : String) (error : MethodError)
  deriving DecidableEq

namespace CallError

def message : CallError → String
  | .connect endpoint reason => "Failed to connect to " ++ endpoint ++ ": " ++ reason
  | .connectionLost reason => "Connection lost: " ++ reason
  | .frameTooLarge size limit =>
    "Frame too large: " ++ Nat.repr size ++ " bytes (max: " ++ Nat.repr limit ++ ")"
  | .encode what reason => "Failed to encode " ++ what ++ ": " ++ reason
  | .decode what reason => "Failed to decode " ++ what ++ ": " ++ reason
  | .method name e => "Remote method " ++ name ++ " failed: " ++ e.text

/-- The connection failed, and not the method called over it. -/
def isConnectionFailure : CallError → Bool
  | .connect .. | .connectionLost _ | .frameTooLarge .. => true
  | _ => false

def methodError? : CallError → Option MethodError
  | .method _ e => some e
  | _ => none

end CallError

inductive ScriptError
  | load (name reason : String)
  | notImplemented (entry : String)
  | runtime (entry reason : String)
  deriving DecidableEq

namespace ScriptError

def message : ScriptError → String
  | .load name reason => "Failed to load script " ++ name ++ ": " ++ reason
  | .notImplemented entry => "function " ++ entry ++ " not implemented in script"
  | .runtime entry reason => "Script entry " ++ entry ++ " failed: " ++ reason

def isNotImplemented : ScriptError → Bool
  | .notImplemented _ => true
  | _ => false

end ScriptError

inductive ConfigError
  | io (path reason : String)
  | parse (reason : String)
  | invalid (reason : String)
  deriving DecidableEq

def ConfigError.message : ConfigError → String
  | .io path reason => "Failed to read configuration " ++ path ++ ": " ++ reason
  | .parse reason => "Failed to parse configuration: " ++ reason
  | .invalid reason => "Invalid configuration: " ++ reason

inductive PolicyError
  | selector (e : SelectorError)
  | call (e : CallError)
  | malformed (e : MethodError)
  | script (e : ScriptError)
  | config (e : ConfigError)
  deriving DecidableEq

namespace PolicyError

def message : PolicyError → String
  | .selector e => "Selector error: " ++ e.message
  | .call e => "Call error: " ++ e.message
  | .malformed e => "Malformed call: " ++ e.text
  | .script e => "Script error: " ++ e.message
  | .config e => "Configuration error: " ++ e.message

/-- The caller broke the rules of use, here or at any hop in between. -/
def isMisuse : PolicyError → Bool
  | .selector (.remoteClosed ..) => true
  | .malformed e => e.kind == .misuse
  | .call (.method _ e) => e.kind == .misuse
  | _ => false

/-- The call lacked a field its method requires. -/
def isMalformed : PolicyError → Bool
  | .malformed e => e.kind == .missingField
  | .call (.method _ e) => e.kind == .missingField
  | _ => false

def isNotImplemented : PolicyError → Bool
  | .script e => e.isNotImplemented
  | _ => false

/-- What a caller at the far end of a connection is told. -/
def toMethodError : PolicyError → MethodError
  | .malformed e => e
  | .call (.method _ e) => e
  | .selector e => ⟨.misuse, e.message⟩
  | .script e => ⟨.policy, e.message⟩
  | e => ⟨.internal, e.message⟩

/-- The error as it arrives after one hop: the far end called `method` and failed with `e`. -/
def afterHop (method : String) (e : PolicyError) : PolicyError :=
  .call (.method method e.toMethodError)

end PolicyError

end PathPolicy
