import PathPolicy.Codec.Basic
import PathPolicy.Configuration.Basic

/-!
# Configurations as records
-/

namespace PathPolicy

open Telemetry

instance : Enumeration SelectorKind where
  all := [.default, .remote, .script]
  name := SelectorKind.name

instance : Enumeration TracerKind where
  all := [.noop, .logging, .remote, .script]
  name := TracerKind.name

namespace Codec

def selectorSection : Codec SelectorSection :=
  (pair enumeration <| pair (option text) <| pair (option text) (option u64)).map
    (fun (mode, socketPath, scriptPath, debugDelayMs) =>
      { mode, socketPath, scriptPath, debugDelayMs })
    fun s => (s.mode, s.socketPath, s.scriptPath, s.debugDelayMs)

def telemetrySection : Codec TelemetrySection :=
  (pair enumeration <| pair (option text) (option text)).map
    (fun (mode, socketPath, scriptPath) => { mode, socketPath, scriptPath })
    fun s => (s.mode, s.socketPath, s.scriptPath)

def connectionSection : Codec ConnectionSection :=
  (pair text <| pair u64 u64).map
    (fun (socketPath, maxFrameSize, connectTimeoutMs) =>
      { socketPath, maxFrameSize, connectTimeoutMs })
    fun s => (s.socketPath, s.maxFrameSize, s.connectTimeoutMs)

def scriptSection : Codec ScriptSection := u64.map .mk ScriptSection.periodicIntervalMs

def configuration : Codec Configuration :=
  (pair selectorSection <| pair telemetrySection <| pair connectionSection scriptSection).map
    (fun (selector, telemetry, rpc, script) => { selector, telemetry, rpc, script })
    fun c => (c.selector, c.telemetry, c.rpc, c.script)

end Codec

end PathPolicy
