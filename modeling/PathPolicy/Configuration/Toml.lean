import PathPolicy.Configuration.Record
import PathPolicy.Toml.Document

/-!
# Configurations as TOML documents

A section is a table, in which absent keys take their defaults and unknown ones do not matter. It
may also be an array, which gives the first keys their values in order.
-/

namespace PathPolicy

open Toml

namespace Toml.Value

def text? : Value → Option String
  | .text s => some s
  | _ => none

def word? : Value → Option UInt64
  | .integer n => if 0 ≤ n ∧ n < UInt64.size then some n.toNat.toUInt64 else none
  | _ => none

/-- Whether there is nothing in the array or table. -/
def isEmpty : Value → Bool
  | .array [] => true
  | .table _ [] => true
  | _ => false

/-- One of an enumeration, as its name or as an empty value under its name. -/
def choice? {α : Type} [Enumeration α] : Value → Option α
  | .text s => Enumeration.ofName? s
  | .table _ [(name, v)] => if v.isEmpty then Enumeration.ofName? name else none
  | _ => none

/-- The values of the keys of a section. A date has none. -/
def section? (keys : List String) : Value → Option (String → Option Value)
  | .table _ entries => some fun key => entries.lookup key
  | .array items => some fun key => (keys.zip items).lookup key
  | .tables earlier last => some fun key => (keys.zip (earlier ++ [.table .header last])).lookup key
  | .moment => some fun _ => none
  | _ => none

end Toml.Value

/-- The value of a key, or a default without one. -/
def keyed {α : Type} (value? : String → Option Value) (key : String) (read? : Value → Option α)
    (default : α) : Option α :=
  match value? key with
  | none => some default
  | some v => read? v

def SelectorSection.ofToml? (v : Value) : Option SelectorSection := do
  let value? ← v.section? ["mode", "socket_path", "script_path", "debug_delay_ms"]
  return {
    mode := ← keyed value? "mode" Value.choice? .default
    socketPath := ← keyed value? "socket_path" (fun v => v.text?.map some) none
    scriptPath := ← keyed value? "script_path" (fun v => v.text?.map some) none
    debugDelayMs := ← keyed value? "debug_delay_ms" (fun v => v.word?.map some) none }

def TelemetrySection.ofToml? (v : Value) : Option TelemetrySection := do
  let value? ← v.section? ["mode", "socket_path", "script_path"]
  return {
    mode := ← keyed value? "mode" Value.choice? .noop
    socketPath := ← keyed value? "socket_path" (fun v => v.text?.map some) none
    scriptPath := ← keyed value? "script_path" (fun v => v.text?.map some) none }

def ConnectionSection.ofToml? (v : Value) : Option ConnectionSection := do
  let value? ← v.section? ["socket_path", "max_frame_size", "connect_timeout_ms"]
  let default : ConnectionSection := {}
  return {
    socketPath := ← keyed value? "socket_path" Value.text? default.socketPath
    maxFrameSize := ← keyed value? "max_frame_size" Value.word? default.maxFrameSize
    connectTimeoutMs := ← keyed value? "connect_timeout_ms" Value.word? default.connectTimeoutMs }

def ScriptSection.ofToml? (v : Value) : Option ScriptSection := do
  let value? ← v.section? ["periodic_interval_ms"]
  let default : ScriptSection := {}
  return {
    periodicIntervalMs :=
      ← keyed value? "periodic_interval_ms" Value.word? default.periodicIntervalMs }

/-- The configuration that a document describes. -/
def Configuration.ofToml? (document : String) : Option Configuration := do
  let t ← Toml.parse? document
  return {
    selector := ← keyed t.get? "selector" SelectorSection.ofToml? {}
    telemetry := ← keyed t.get? "telemetry" TelemetrySection.ofToml? {}
    rpc := ← keyed t.get? "rpc" ConnectionSection.ofToml? {}
    script := ← keyed t.get? "script" ScriptSection.ofToml? {} }

end PathPolicy
