import PathPolicy.Configuration.Record
import PathPolicy.Document.Message

/-!
# Configurations as documents

A section or key that is absent takes its default.
-/

namespace PathPolicy

instance : Described SelectorSection :=
  ⟨fun s => .record [
    ("mode", describe s.mode),
    ("socket_path", describe s.socketPath),
    ("script_path", describe s.scriptPath),
    ("debug_delay_ms", describe s.debugDelayMs)]⟩

instance : Readable SelectorSection :=
  ⟨fun d => do
    return {
      mode := ← d.getD "mode" .default
      socketPath := ← d.get? "socket_path"
      scriptPath := ← d.get? "script_path"
      debugDelayMs := ← d.get? "debug_delay_ms" }⟩

instance : Described TelemetrySection :=
  ⟨fun s => .record [
    ("mode", describe s.mode),
    ("socket_path", describe s.socketPath),
    ("script_path", describe s.scriptPath)]⟩

instance : Readable TelemetrySection :=
  ⟨fun d => do
    return {
      mode := ← d.getD "mode" .noop
      socketPath := ← d.get? "socket_path"
      scriptPath := ← d.get? "script_path" }⟩

instance : Described ConnectionSection :=
  ⟨fun s => .record [
    ("socket_path", describe s.socketPath),
    ("max_frame_size", describe s.maxFrameSize),
    ("connect_timeout_ms", describe s.connectTimeoutMs)]⟩

instance : Readable ConnectionSection :=
  ⟨fun d => do
    let default : ConnectionSection := {}
    return {
      socketPath := ← d.getD "socket_path" default.socketPath
      maxFrameSize := ← d.getD "max_frame_size" default.maxFrameSize
      connectTimeoutMs := ← d.getD "connect_timeout_ms" default.connectTimeoutMs }⟩

instance : Described ScriptSection :=
  ⟨fun s => .record [("periodic_interval_ms", describe s.periodicIntervalMs)]⟩

instance : Readable ScriptSection :=
  ⟨fun d => (d.getD "periodic_interval_ms" ({} : ScriptSection).periodicIntervalMs).map .mk⟩

instance : Described Configuration :=
  ⟨fun c => .record [
    ("selector", describe c.selector),
    ("telemetry", describe c.telemetry),
    ("rpc", describe c.rpc),
    ("script", describe c.script)]⟩

instance : Readable Configuration :=
  ⟨fun d => do
    return {
      selector := ← d.getD "selector" {}
      telemetry := ← d.getD "telemetry" {}
      rpc := ← d.getD "rpc" {}
      script := ← d.getD "script" {} }⟩

instance : Described SelectorMode :=
  ⟨fun
    | .default => .text "default"
    | .remote s => .record [("remote", .text s)]
    | .script p => .record [("script", .text p)]⟩

instance : Readable SelectorMode :=
  ⟨fun
    | .text "default" => some .default
    | .record [("remote", s)] => (Readable.read? s).map .remote
    | .record [("script", p)] => (Readable.read? p).map .script
    | _ => none⟩

instance : Described TelemetryMode :=
  ⟨fun
    | .noop => .text "noop"
    | .logging => .text "logging"
    | .remote s => .record [("remote", .text s)]
    | .script p => .record [("script", .text p)]⟩

instance : Readable TelemetryMode :=
  ⟨fun
    | .text "noop" => some .noop
    | .text "logging" => some .logging
    | .record [("remote", s)] => (Readable.read? s).map .remote
    | .record [("script", p)] => (Readable.read? p).map .script
    | _ => none⟩

instance : Described InvalidConfiguration := ⟨fun e => describe e.toPolicyError⟩

end PathPolicy
