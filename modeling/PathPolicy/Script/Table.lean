import PathPolicy.Path
import PathPolicy.Script.Value
import PathPolicy.Telemetry.Event

/-!
# What a script is shown

Paths, interfaces and events as tables, under the names known to the authors of scripts.
-/

namespace PathPolicy

open Script

def Interface.table (i : Interface) : Value :=
  .record none [("IA", .text i.network.text), ("IfID", .ofUInt64 i.number)]

def Location.table (l : Location) : Value :=
  .record none [
    ("Latitude", .double (Text.Decimal.widen l.latitude)),
    ("Longitude", .double (Text.Decimal.widen l.longitude)),
    ("Address", .text l.address)]

def PathMetadata.table (m : PathMetadata) : Value :=
  .record none [
    ("MTU", .ofInt m.mtu.toNat),
    ("Interfaces", .list (m.interfaces.map Interface.table)),
    ("Latency", .list (m.latency.map fun d => .double d.toFloat.toBits)),
    ("Bandwidth", .list (m.bandwidth.map .ofUInt64)),
    ("LinkType", .list (m.linkTypes.map fun l => .ofInt l.code)),
    ("InternalHops", .list (m.internalHops.map fun n => .ofInt n.toNat)),
    ("Notes", .list (m.notes.map .text)),
    ("Geo", .list (m.locations.map Location.table))]

/-- The table of a path, known by `identity`. -/
def Path.table (identity : TableIdentity) (p : Path) : Value :=
  .record (some identity) [
    ("Source", .text p.source.text),
    ("Destination", .text p.destination.text),
    ("Fingerprint", .text p.fingerprint.text),
    ("Expiry", .ofInt p.expiry.wholeSeconds),
    ("Metadata", (p.metadata.map PathMetadata.table).getD .nil)]

namespace Telemetry

/-- The fields of an event; nothing for an event that is only a kind. -/
def ConnectionEvent.payload (e : ConnectionEvent) : Except EncodeFault Value :=
  match e.fields with
  | [] => .ok .nil
  | fields => Value.ofDocument (.record fields)

end Telemetry

end PathPolicy
