import PathPolicy.Document.Message
import PathPolicy.Script.Program

/-!
# Declarative scripts as documents
-/

namespace PathPolicy.Script

def Action.read? (d : Document) : Option Action := do
  let message : Option String := d.get? "message"
  match ← d.get? "do" with
  | "nothing" => return .nothing
  | "store" => return .store
  | "forget" => return .forget
  | "reset_down" => return .resetDown
  | "mark_down" => return .markDown
  | "pick" =>
    let position : Int ← d.get? "index"
    return .pick (← d.get? "of") position.toNat
  | "pick_last" => return .pickLast
  | "pick_fp" => return .pickFingerprint (← d.get? "fp")
  | "max_mtu" => return .pickLargest
  | "avoid_down" => return .avoidDown
  | "stale" =>
    let position : Int ← d.get? "n"
    return .stale position.toNat
  | "fabricate" => return .fabricate (← d.get? "fp")
  | "return" => return .answer (← d.get? "values")
  | "echo" => return .echo
  | "count" => return .count
  | "error" => return .raise (← message)
  | "error_once" => return .raiseOnce (← message)
  | "log" => return .log (← d.get? "args")
  | "log_args" => return .logArguments
  | "log_bad" => return .logUnprintable
  | "log_named" => return .logNamed
  | "require_same" => return .requireSame
  | _ => none

instance : Readable Action := ⟨Action.read?⟩

instance : Readable Home :=
  ⟨fun
    | .text "panapi" => some .selector
    | .text "stats" => some .tracer
    | .text "global" => some .global
    | _ => none⟩

instance : Readable Entry :=
  ⟨fun d => do
    let body ←
      match d.field "act" with
      | .absent => do pure (.plain (← d.get? "value"))
      | actions => do pure (.function (← Readable.read? actions))
    return ⟨← d.get? "on", ← d.get? "entry", body⟩⟩

instance : Readable ModuleState :=
  ⟨fun
    | .text "nil" => some .replaced
    | .text "number" => some .replaced
    | .text "raising" => some .raising
    | _ => none⟩

instance : Readable LoadFault :=
  ⟨fun
    | .text "syntax_error" => some .unreadable
    | .text "runtime_error" => some .failing
    | _ => none⟩

instance : Readable Program :=
  ⟨fun d => do
    let plain : Program := {}
    return {
      name := ← d.getD "name" plain.name
      fault := ← d.get? "load"
      selectorTable := ← d.getD "panapi" .intact
      tracerTable := ← d.getD "stats" .intact
      entries := ← d.getD "entries" [] }⟩

instance : Described Call :=
  ⟨fun c => .record [("fn", .text c.function), ("args", describe c.arguments)]⟩

end PathPolicy.Script
