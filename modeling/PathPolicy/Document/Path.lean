import PathPolicy.Codec.Path
import PathPolicy.Document.Basic
import PathPolicy.Text.Hex

/-!
# Paths as documents

Instants and spans are pairs of seconds and nanoseconds, an interface is a pair of its network and
number. What a path leaves out takes its default, and a bare text is the path with that fingerprint
and nothing else said.
-/

namespace PathPolicy

instance : Described RemoteAddress := ⟨fun r => describe r.text⟩

instance : Readable RemoteAddress := ⟨fun d => (Readable.read? d).map .mk⟩

instance : Described Fingerprint := ⟨fun f => describe f.text⟩

instance : Readable Fingerprint := ⟨fun d => (Readable.read? d).map .mk⟩

instance : Described Network := ⟨fun n => describe n.text⟩

instance : Readable Network := ⟨fun d => (Readable.read? d).map .mk⟩

instance : Described PathHandle := ⟨fun h => describe h.number⟩

instance : Readable PathHandle := ⟨fun d => (Readable.read? d).map .mk⟩

instance : Described Interface := ⟨fun i => .list [describe i.network, describe i.number]⟩

instance : Readable Interface :=
  ⟨fun | .list [n, i] => do return ⟨← Readable.read? n, ← Readable.read? i⟩ | _ => none⟩

/-- Bytes shown in hexadecimal. -/
structure HexBytes where
  bytes : List UInt8

instance : Described HexBytes := ⟨fun b => .text (Text.Hex.encode b.bytes)⟩

instance : Readable HexBytes :=
  ⟨fun | .text s => (Text.Hex.decode? s).map .mk | _ => none⟩

/-- An instant shown as a pair. -/
structure InstantPair where
  instant : Instant

instance : Described InstantPair :=
  ⟨fun p => .list [describe p.instant.seconds, describe p.instant.nanos]⟩

instance : Readable InstantPair :=
  ⟨fun | .list [s, n] => do return ⟨⟨← Readable.read? s, ← Readable.read? n⟩⟩ | _ => none⟩

/-- A span shown as a pair. -/
structure SpanPair where
  span : Span

instance : Described SpanPair :=
  ⟨fun p => .list [describe p.span.seconds, describe p.span.nanos]⟩

instance : Readable SpanPair :=
  ⟨fun | .list [s, n] => do return ⟨⟨← Readable.read? s, ← Readable.read? n⟩⟩ | _ => none⟩

instance : Described Location :=
  ⟨fun l => .record [("lat", describe l.latitude), ("lon", describe l.longitude),
    ("address", describe l.address)]⟩

instance : Readable Location :=
  ⟨fun d => do return ⟨← d.get? "lat", ← d.get? "lon", ← d.get? "address"⟩⟩

instance : Described PathMetadata :=
  ⟨fun m => .record [
    ("mtu", describe m.mtu),
    ("interfaces", describe m.interfaces),
    ("latency", describe (m.latency.map SpanPair.mk)),
    ("bandwidth", describe m.bandwidth),
    ("link_type", describe m.linkTypes),
    ("internal_hops", describe m.internalHops),
    ("notes", describe m.notes),
    ("geo", describe m.locations)]⟩

instance : Readable PathMetadata :=
  ⟨fun d => do
    let latency ← d.getD "latency" ([] : List SpanPair)
    return {
      mtu := ← d.getD "mtu" 0
      interfaces := ← d.getD "interfaces" []
      latency := latency.map SpanPair.span
      bandwidth := ← d.getD "bandwidth" []
      linkTypes := ← d.getD "link_type" []
      internalHops := ← d.getD "internal_hops" []
      notes := ← d.getD "notes" []
      locations := ← d.getD "geo" [] }⟩

/-- A path of which only the fingerprint is of interest. -/
def Path.plain (f : Fingerprint) : Path :=
  ⟨⟨"1-ff00:0:110"⟩, ⟨"1-ff00:0:112"⟩, f, .epoch, none⟩

instance : Described Path :=
  ⟨fun p => .record [
    ("src", describe p.source),
    ("dst", describe p.destination),
    ("fp", describe p.fingerprint),
    ("expiry", describe (InstantPair.mk p.expiry)),
    ("meta", describe p.metadata)]⟩

instance : Readable Path :=
  ⟨fun
    | .text s => some (.plain ⟨s⟩)
    | d => do
      let plain := Path.plain (← d.get? "fp")
      let expiry ← d.getD "expiry" (InstantPair.mk plain.expiry)
      return { plain with
        source := ← d.getD "src" plain.source
        destination := ← d.getD "dst" plain.destination
        expiry := expiry.instant
        metadata := ← d.get? "meta" }⟩

/-- A path object is shown by what tells it apart. -/
instance : Described PathObject :=
  ⟨fun o => .record [("path", describe o.label), ("fp", describe o.fingerprint)]⟩

/-- A path on offer: a new one, or the object given before under a label. -/
inductive Offered
  | path (p : Path)
  | again (label : Nat)

instance : Readable Offered :=
  ⟨fun
    | .number n => n.toNat?.map .again
    | d => (Readable.read? d).map .path⟩

/--
The objects of an offer. Each new path is a new object, labelled by the number of objects before it.
`given` are the objects so far; the second result has the new ones too.
-/
def Offered.objects (given : List PathObject) :
    List Offered → Option (List PathObject × List PathObject)
  | [] => some ([], given)
  | .again label :: rest => do
    let o ← given[label]?
    let (os, given) ← objects given rest
    return (o :: os, given)
  | .path p :: rest => do
    let o : PathObject := ⟨some given.length, p⟩
    let (os, given) ← objects (given ++ [o]) rest
    return (o :: os, given)

end PathPolicy
