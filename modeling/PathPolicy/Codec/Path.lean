import PathPolicy.Codec.Basic

/-!
# Paths, handles and method errors as records
-/

namespace PathPolicy

instance : Enumeration LinkType where
  all := [.unset, .direct, .multiHop, .openNet]
  name
    | .unset => "Unset"
    | .direct => "Direct"
    | .multiHop => "MultiHop"
    | .openNet => "OpenNet"

instance : Enumeration MethodErrorKind where
  all := [.unknownMethod, .missingField, .unknownTracingId, .misuse, .policy, .internal]
  name := MethodErrorKind.name

namespace Codec

def remoteAddress : Codec RemoteAddress := text.map .mk RemoteAddress.text

def fingerprint : Codec Fingerprint := text.map .mk Fingerprint.text

def network : Codec Network := text.map .mk Network.text

def pathHandle : Codec PathHandle := u64.map .mk PathHandle.number

def tracingId : Codec TracingId := u64.map .mk TracingId.number

def interface : Codec Interface :=
  (pair network u64).map (fun (n, i) => ⟨n, i⟩) fun i => (i.network, i.number)

def location : Codec Location :=
  (pair u32 (pair u32 text)).map (fun (a, b, c) => ⟨a, b, c⟩)
    fun l => (l.latitude, l.longitude, l.address)

def pathMetadata : Codec PathMetadata :=
  (pair u16 <| pair (list interface) <| pair (list span) <| pair (list u64) <|
    pair (list enumeration) <| pair (list u32) <| pair (list text) (list location)).map
    (fun (a, b, c, d, e, f, g, h) => ⟨a, b, c, d, e, f, g, h⟩)
    fun m => (m.mtu, m.interfaces, m.latency, m.bandwidth, m.linkTypes, m.internalHops, m.notes,
      m.locations)

def path : Codec Path :=
  (pair network <| pair network <| pair fingerprint <| pair instant (option pathMetadata)).map
    (fun (a, b, c, d, e) => ⟨a, b, c, d, e⟩)
    fun p => (p.source, p.destination, p.fingerprint, p.expiry, p.metadata)

def methodError : Codec MethodError :=
  (pair enumeration text).map (fun (k, m) => ⟨k, m⟩) fun e => (e.kind, e.message)

end Codec

end PathPolicy
