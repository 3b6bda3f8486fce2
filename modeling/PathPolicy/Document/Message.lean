import PathPolicy.Document.Path
import PathPolicy.Frame
import PathPolicy.Remote.SelectorMessage
import PathPolicy.Remote.TracerMessageCodec

/-!
# Messages, frames and errors as documents
-/

namespace PathPolicy

open Remote

instance : Described MethodError :=
  ⟨fun e => .record [("kind", describe e.kind), ("message", describe e.message)]⟩

instance : Readable MethodError :=
  ⟨fun d => do return ⟨← d.get? "kind", ← d.getD "message" ""⟩⟩

def CallError.kindName : CallError → String
  | .connect .. => "Call.Connect"
  | .connectionLost _ => "Call.ConnectionLost"
  | .frameTooLarge .. => "Call.FrameTooLarge"
  | .encode .. => "Call.Encode"
  | .decode .. => "Call.Decode"
  | .method _ e => "Call.Method." ++ e.kind.name

def ScriptError.kindName : ScriptError → String
  | .load .. => "Script.Load"
  | .notImplemented _ => "Script.NotImplemented"
  | .runtime .. => "Script.Runtime"

def PolicyError.kindName : PolicyError → String
  | .selector (.remoteClosed ..) => "Selector.RemoteClosed"
  | .call e => e.kindName
  | .malformed e => "Method." ++ e.kind.name
  | .script e => e.kindName
  | .config (.io ..) => "Config.Io"
  | .config (.parse _) => "Config.Parse"
  | .config (.invalid _) => "Config.Invalid"

/-- An error by kind and message. -/
def Document.error (kind message : String) : Document :=
  .record [("error", .text kind), ("message", .text message)]

instance : Described CallError := ⟨fun e => .error e.kindName e.message⟩

instance : Described ScriptError := ⟨fun e => .error e.kindName e.message⟩

instance : Described PolicyError := ⟨fun e => .error e.kindName e.message⟩

instance : Readable PolicyError :=
  ⟨fun d => do
    let text (key : String) : Option String := d.getD key ""
    match ← d.get? "type" with
    | "RemoteClosed" => return .selector (.remoteClosed ⟨← text "remote"⟩ (← text "operation"))
    | "Connect" => return .call (.connect (← text "endpoint") (← text "reason"))
    | "ConnectionLost" => return .call (.connectionLost (← text "reason"))
    | "FrameTooLarge" => return .call (.frameTooLarge (← d.getD "size" 0) (← d.getD "max" 0))
    | "Encode" => return .call (.encode (← text "what") (← text "reason"))
    | "Decode" => return .call (.decode (← text "what") (← text "reason"))
    | "CallMethod" => return .call (.method (← text "method") (← Readable.read? d))
    | "Method" => return .malformed (← Readable.read? d)
    | "MissingField" => return .malformed (.missingField (← text "method") (← text "field"))
    | "UnknownMethod" => return .malformed (.unknownMethod (← text "method"))
    | "Load" => return .script (.load (← text "name") (← text "reason"))
    | "NotImplemented" => return .script (.notImplemented (← text "entry"))
    | "Runtime" => return .script (.runtime (← text "entry") (← text "reason"))
    | "Io" => return .config (.io (← text "path") (← text "reason"))
    | "Parse" => return .config (.parse (← text "reason"))
    | "Invalid" => return .config (.invalid (← text "reason"))
    | _ => none⟩

instance : Described PathRecord :=
  ⟨fun r => .record [("handle", describe r.handle), ("path", describe r.path)]⟩

instance : Readable PathRecord := ⟨fun d => do return ⟨← d.get? "handle", ← d.get? "path"⟩⟩

instance : Described SelectorMessage :=
  ⟨fun m => .record [
    ("remote", describe m.remote),
    ("paths", describe m.paths),
    ("fingerprint", describe m.fingerprint),
    ("interface", describe m.interface)]⟩

instance : Readable SelectorMessage :=
  ⟨fun d => do
    return {
      remote := ← d.get? "remote"
      paths := ← d.get? "paths"
      fingerprint := ← d.get? "fingerprint"
      interface := ← d.get? "interface" }⟩

instance : Described PathReply := ⟨fun r => .record [("handle", describe r.handle)]⟩

instance : Readable PathReply := ⟨fun d => (d.get? "handle").map .mk⟩

/-- The payload of a request, given as a message, as a number of zeros or in hexadecimal. -/
def payloadOf? (d : Document) : Option (List UInt8) :=
  match d.field "msg", d.field "tmsg", d.field "zeros" with
  | .absent, .absent, .absent => (d.getD "payload" (HexBytes.mk [])).map HexBytes.bytes
  | .absent, .absent, n => (Readable.read? n).map fun n => List.replicate n 0
  | .absent, m, _ => do (Codec.tracerMessage.encode (← Readable.read? m)).toOption
  | m, _, _ => do (Codec.selectorMessage.encode (← Readable.read? m)).toOption

instance : Described Frame :=
  ⟨fun f =>
    let id := ("call_id", describe f.callId)
    match f.body with
    | .request m p => .record [id, ("method", describe m), ("payload", describe (HexBytes.mk p))]
    | .response (.ok b) => .record [id, ("ok", describe (HexBytes.mk b))]
    | .response (.error e) => .record [id, ("err", describe e)]⟩

instance : Readable Frame :=
  ⟨fun d => do
    let id ← d.get? "call_id"
    match d.field "ok", d.field "err" with
    | .absent, .absent => return ⟨id, .request (← d.get? "method") (← payloadOf? d)⟩
    | .absent, e => return ⟨id, .response (.error (← Readable.read? e))⟩
    | b, _ => return ⟨id, .response (.ok (← (Readable.read? b).map HexBytes.bytes))⟩⟩

end PathPolicy
