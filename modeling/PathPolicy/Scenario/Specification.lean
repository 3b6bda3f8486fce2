import PathPolicy.Document.Script
import PathPolicy.Scenario.World

/-!
# Descriptions of selectors and tracers

What a scenario is made of, as its author writes it down.
-/

namespace PathPolicy.Scenario

open Telemetry

/-- Which path a recording selector answers with, of those it was told of last. -/
inductive Pick
  | last
  | first
  | nothing
  /-- One that nobody offered. -/
  | foreign
  deriving DecidableEq

/-- Errors by the operation or event that meets them. -/
abbrev Failures := List (String × PolicyError)

inductive SelectorSpec
  | failover
  | delayed (ms : Nat) (inner : Option SelectorSpec)
  | recording (pick : Pick) (failures : Failures)
  /-- Behind a connection; the limits are those of the two ends. -/
  | remote (inner : SelectorSpec) (clientLimit serverLimit : Nat)
  /-- Behind a connection whose far end has its answers prepared. -/
  | prepared (answers : List Prepared) (clientLimit : Nat)
  /-- A script of its own, or the common one. -/
  | script (program : Option Script.Program)

inductive TracerSpec
  | silent
  | logging
  | recording (failures : Failures)
  | script (program : Option Script.Program)
  | forward (inner : TracerSpec) (clientLimit serverLimit : Nat)

instance : Readable Pick :=
  ⟨fun
    | .text "last" => some .last
    | .text "first" => some .first
    | .text "none" => some .nothing
    | .text "foreign" => some .foreign
    | _ => none⟩

instance : Readable Prepared :=
  ⟨fun d => do
    match d.field "ok", d.field "handle", d.field "err" with
    | .absent, .absent, .absent => return .hangUp
    | .absent, .absent, e => return .response (.error (← Readable.read? e))
    | .absent, h, _ =>
      let reply : Remote.PathReply := ⟨some (← Readable.read? h)⟩
      return .response (.ok (← (Codec.pathReply.encode reply).toOption))
    | b, _, _ => do
      let b : HexBytes ← Readable.read? b
      return .response (.ok b.bytes)⟩

def readFailures (d : Document) : Option Failures :=
  match d.field "fail" with
  | .record fields => fields.mapM fun (key, e) => do return (key, ← Readable.read? e)
  | _ => some []

/-- The limit of an end about which nothing is said. -/
def usualLimit : Nat := 1048576

/-- Whether the description has a part under the key. -/
def hasField (d : Document) (key : String) : Bool :=
  match d.field key with
  | .absent => false
  | _ => true

/-- Reads a description nested at most `depth` deep. -/
def SelectorSpec.read? : Nat → Document → Option SelectorSpec
  | 0, _ => none
  | depth + 1, d => do
    let inner := read? depth (d.field "inner")
    let clientLimit ← d.getD "client_max" usualLimit
    match ← d.get? "kind" with
    | "default" => return .failover
    | "debug" =>
      let ms ← d.getD "delay_ms" 0
      if hasField d "inner" then return .delayed ms (← inner) else return .delayed ms none
    | "recording" => return .recording (← d.get? "pick") (← readFailures d)
    | "remote" =>
      if hasField d "peer" then return .prepared (← d.get? "peer") clientLimit
      else return .remote (← inner) clientLimit (← d.getD "server_max" usualLimit)
    | "script" => return .script (← d.get? "script")
    | "shared" => inner
    | _ => none

def TracerSpec.read? : Nat → Document → Option TracerSpec
  | 0, _ => none
  | depth + 1, d => do
    let inner := read? depth (d.field "inner")
    match ← d.get? "kind" with
    | "noop" => return .silent
    | "logging" => return .logging
    | "recording" => return .recording (← readFailures d)
    | "script" => return .script (← d.get? "script")
    | "forward" =>
      let serverLimit ← d.getD "server_max" usualLimit
      return .forward (← inner) (← d.getD "client_max" usualLimit) serverLimit
    | "shared" => inner
    | _ => none

mutual

/-- How deep a document is nested. -/
def depthOf : Document → Nat
  | .list items => depthOfItems items + 1
  | .record fields => depthOfFields fields + 1
  | _ => 1

def depthOfItems : List Document → Nat
  | [] => 0
  | d :: ds => max (depthOf d) (depthOfItems ds)

def depthOfFields : List (String × Document) → Nat
  | [] => 0
  | (_, d) :: ds => max (depthOf d) (depthOfFields ds)

end

instance : Readable SelectorSpec := ⟨fun d => SelectorSpec.read? (depthOf d) d⟩

instance : Readable TracerSpec := ⟨fun d => TracerSpec.read? (depthOf d) d⟩

instance : Described Note :=
  ⟨fun
    | .selector operation remote details =>
      .record [("sel", .text operation), ("args", .list (describe remote :: details))]
    | .registered id side odcid =>
      .record [("register", describe id.number), ("perspective", .text (toString side)),
        ("odcid", describe (HexBytes.mk odcid.bytes))]
    | .recorded id event =>
      .record [("record", describe id.number), ("event", describe event)]
    | .request f => .record [("peer", describe f)]
    | .gone client => .record [("gone", .text (toString client))]⟩

instance : Described LogEntry :=
  ⟨fun
    | .script text => .record [("script", .text text)]
    | .line l =>
      .record [("level", .text l.level.name),
        ("fields", .list (l.fields.map fun (k, v) => .list [.text k, .text v]))]⟩

end PathPolicy.Scenario
