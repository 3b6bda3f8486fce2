import PathPolicy.Error
import PathPolicy.Telemetry.Event

/-!
# Events as messages

All calls about traced connections carry one record with every field optional.
`TracerMessage.ofEvent` fills in the fields of an event, `TracerMessage.toEvent?` rebuilds an event
of a given kind from them. Which fields a kind cannot do without is listed in `requiredFields`; a
list that is absent is taken to be empty, and an absent optional value stays absent.
-/

namespace PathPolicy.Remote

open Telemetry

instance : Described TracingId := ⟨fun i => describe i.number⟩

instance : Readable TracingId := ⟨fun d => (Readable.read? d).map .mk⟩

/-- The fields of a message. -/
inductive MessageField
  | tracingId
  | perspective
  | odcid
  | localAddress
  | remote
  | srcConnId
  | destConnId
  | chosen
  | versions
  | clientVersions
  | serverVersions
  | errorMsg
  | key
  | value
  | parameters
  | byteCount
  | cwnd
  | packets
  | rtt
  | header
  | extendedHeader
  | ackFrame
  | packetType
  | dropReason
  | lossReason
  | encryptionLevel
  | packetNumber
  | congestionState
  | ptoCount
  | generation
  | flag
  | timerType
  | time
  deriving DecidableEq, Inhabited

def MessageField.name : MessageField → String
  | .tracingId => "tracing_id"
  | .perspective => "perspective"
  | .odcid => "odcid"
  | .localAddress => "local"
  | .remote => "remote"
  | .srcConnId => "src_conn_id"
  | .destConnId => "dest_conn_id"
  | .chosen => "chosen"
  | .versions => "versions"
  | .clientVersions => "client_versions"
  | .serverVersions => "server_versions"
  | .errorMsg => "error_msg"
  | .key => "key"
  | .value => "value"
  | .parameters => "parameters"
  | .byteCount => "byte_count"
  | .cwnd => "cwnd"
  | .packets => "packets"
  | .rtt => "rtt"
  | .header => "header"
  | .extendedHeader => "extended_header"
  | .ackFrame => "ack_frame"
  | .packetType => "packet_type"
  | .dropReason => "drop_reason"
  | .lossReason => "loss_reason"
  | .encryptionLevel => "encryption_level"
  | .packetNumber => "packet_number"
  | .congestionState => "congestion_state"
  | .ptoCount => "pto_count"
  | .generation => "generation"
  | .flag => "flag"
  | .timerType => "timer_type"
  | .time => "time"

structure TracerMessage where
  tracingId : Option TracingId := none
  perspective : Option Perspective := none
  odcid : Option ConnectionId := none
  localAddress : Option String := none
  remote : Option String := none
  srcConnId : Option ConnectionId := none
  destConnId : Option ConnectionId := none
  chosen : Option VersionNumber := none
  versions : Option (List VersionNumber) := none
  clientVersions : Option (List VersionNumber) := none
  serverVersions : Option (List VersionNumber) := none
  errorMsg : Option String := none
  key : Option String := none
  value : Option String := none
  parameters : Option TransportParameters := none
  byteCount : Option UInt64 := none
  cwnd : Option UInt64 := none
  packets : Option UInt64 := none
  rtt : Option RttStats := none
  header : Option PacketHeader := none
  extendedHeader : Option ExtendedHeader := none
  ackFrame : Option AckFrame := none
  packetType : Option PacketType := none
  dropReason : Option PacketDropReason := none
  lossReason : Option PacketLossReason := none
  encryptionLevel : Option EncryptionLevel := none
  packetNumber : Option Int64 := none
  congestionState : Option CongestionState := none
  ptoCount : Option UInt32 := none
  generation : Option UInt64 := none
  flag : Option Bool := none
  timerType : Option TimerType := none
  time : Option Instant := none
  deriving DecidableEq, Inhabited

namespace TracerMessage

def has (m : TracerMessage) : MessageField → Bool
  | .tracingId => m.tracingId.isSome
  | .perspective => m.perspective.isSome
  | .odcid => m.odcid.isSome
  | .localAddress => m.localAddress.isSome
  | .remote => m.remote.isSome
  | .srcConnId => m.srcConnId.isSome
  | .destConnId => m.destConnId.isSome
  | .chosen => m.chosen.isSome
  | .versions => m.versions.isSome
  | .clientVersions => m.clientVersions.isSome
  | .serverVersions => m.serverVersions.isSome
  | .errorMsg => m.errorMsg.isSome
  | .key => m.key.isSome
  | .value => m.value.isSome
  | .parameters => m.parameters.isSome
  | .byteCount => m.byteCount.isSome
  | .cwnd => m.cwnd.isSome
  | .packets => m.packets.isSome
  | .rtt => m.rtt.isSome
  | .header => m.header.isSome
  | .extendedHeader => m.extendedHeader.isSome
  | .ackFrame => m.ackFrame.isSome
  | .packetType => m.packetType.isSome
  | .dropReason => m.dropReason.isSome
  | .lossReason => m.lossReason.isSome
  | .encryptionLevel => m.encryptionLevel.isSome
  | .packetNumber => m.packetNumber.isSome
  | .congestionState => m.congestionState.isSome
  | .ptoCount => m.ptoCount.isSome
  | .generation => m.generation.isSome
  | .flag => m.flag.isSome
  | .timerType => m.timerType.isSome
  | .time => m.time.isSome

/-- The fields present, under their names and in order. -/
def document (m : TracerMessage) : Document :=
  .present [
    ("tracing_id", describe m.tracingId),
    ("perspective", describe m.perspective),
    ("odcid", describe m.odcid),
    ("local", describe m.localAddress),
    ("remote", describe m.remote),
    ("src_conn_id", describe m.srcConnId),
    ("dest_conn_id", describe m.destConnId),
    ("chosen", describe m.chosen),
    ("versions", describe m.versions),
    ("client_versions", describe m.clientVersions),
    ("server_versions", describe m.serverVersions),
    ("error_msg", describe m.errorMsg),
    ("key", describe m.key),
    ("value", describe m.value),
    ("parameters", describe m.parameters),
    ("byte_count", describe m.byteCount),
    ("cwnd", describe m.cwnd),
    ("packets", describe m.packets),
    ("rtt", describe m.rtt),
    ("header", describe m.header),
    ("extended_header", describe m.extendedHeader),
    ("ack_frame", describe m.ackFrame),
    ("packet_type", describe m.packetType),
    ("drop_reason", describe m.dropReason),
    ("loss_reason", describe m.lossReason),
    ("encryption_level", describe m.encryptionLevel),
    ("packet_number", describe m.packetNumber),
    ("congestion_state", describe m.congestionState),
    ("pto_count", describe m.ptoCount),
    ("generation", describe m.generation),
    ("flag", describe m.flag),
    ("timer_type", describe m.timerType),
    ("time", describe m.time)]

def ofDocument? (d : Document) : Option TracerMessage := do
  return {
    tracingId := ← d.get? "tracing_id"
    perspective := ← d.get? "perspective"
    odcid := ← d.get? "odcid"
    localAddress := ← d.get? "local"
    remote := ← d.get? "remote"
    srcConnId := ← d.get? "src_conn_id"
    destConnId := ← d.get? "dest_conn_id"
    chosen := ← d.get? "chosen"
    versions := ← d.get? "versions"
    clientVersions := ← d.get? "client_versions"
    serverVersions := ← d.get? "server_versions"
    errorMsg := ← d.get? "error_msg"
    key := ← d.get? "key"
    value := ← d.get? "value"
    parameters := ← d.get? "parameters"
    byteCount := ← d.get? "byte_count"
    cwnd := ← d.get? "cwnd"
    packets := ← d.get? "packets"
    rtt := ← d.get? "rtt"
    header := ← d.get? "header"
    extendedHeader := ← d.get? "extended_header"
    ackFrame := ← d.get? "ack_frame"
    packetType := ← d.get? "packet_type"
    dropReason := ← d.get? "drop_reason"
    lossReason := ← d.get? "loss_reason"
    encryptionLevel := ← d.get? "encryption_level"
    packetNumber := ← d.get? "packet_number"
    congestionState := ← d.get? "congestion_state"
    ptoCount := ← d.get? "pto_count"
    generation := ← d.get? "generation"
    flag := ← d.get? "flag"
    timerType := ← d.get? "timer_type"
    time := ← d.get? "time" }

/-- The method by which events of a kind are reported. -/
def methodFor (k : EventKind) : String := "ConnectionTracer." ++ k.name

/-- The method by which a connection is registered before its first event. -/
def registrationMethod : String := "ConnectionTracer.NewTracerForConnection"

/-- The message that registers a connection. -/
def registration (id : TracingId) (p : Perspective) (odcid : ConnectionId) : TracerMessage :=
  { tracingId := some id, perspective := some p, odcid := some odcid }

/-- The fields without which no event of the kind can be rebuilt, in the order they are checked. -/
def requiredFields : EventKind → List MessageField
  | .startedConnection => [.localAddress, .remote, .srcConnId, .destConnId]
  | .negotiatedVersion => [.chosen]
  | .closedConnection => []
  | .sentTransportParameters | .receivedTransportParameters | .restoredTransportParameters =>
    [.parameters]
  | .sentPacket | .receivedPacket => [.extendedHeader, .byteCount]
  | .receivedVersionNegotiationPacket | .receivedRetry => [.header]
  | .bufferedPacket => [.packetType]
  | .droppedPacket => [.packetType, .byteCount, .dropReason]
  | .updatedMetrics => [.cwnd, .byteCount, .packets]
  | .acknowledgedPacket => [.encryptionLevel, .packetNumber]
  | .lostPacket => [.encryptionLevel, .packetNumber, .lossReason]
  | .updatedCongestionState => [.congestionState]
  | .updatedPtoCount => [.ptoCount]
  | .updatedKeyFromTls => [.encryptionLevel, .perspective]
  | .updatedKey => [.generation, .flag]
  | .droppedEncryptionLevel => [.encryptionLevel]
  | .droppedKey => [.generation]
  | .setLossTimer => [.timerType, .encryptionLevel, .time]
  | .lossTimerExpired => [.timerType, .encryptionLevel]
  | .lossTimerCanceled | .close => []
  | .debug => [.key, .value]

/-- The message that reports an event of the connection `id`. -/
def ofEvent (id : TracingId) : ConnectionEvent → TracerMessage
  | .startedConnection localAddress remote src dest =>
    { tracingId := some id, localAddress := some localAddress, remote := some remote,
      srcConnId := some src, destConnId := some dest }
  | .negotiatedVersion chosen client server =>
    { tracingId := some id, chosen := some chosen, clientVersions := some client,
      serverVersions := some server }
  | .closedConnection reason => { tracingId := some id, errorMsg := reason }
  | .sentTransportParameters p | .receivedTransportParameters p | .restoredTransportParameters p =>
    { tracingId := some id, parameters := some p }
  | .sentPacket header size ack =>
    { tracingId := some id, extendedHeader := some header, byteCount := some size,
      ackFrame := ack }
  | .receivedVersionNegotiationPacket header versions =>
    { tracingId := some id, header := some header, versions := some versions }
  | .receivedRetry header => { tracingId := some id, header := some header }
  | .receivedPacket header size =>
    { tracingId := some id, extendedHeader := some header, byteCount := some size }
  | .bufferedPacket type => { tracingId := some id, packetType := some type }
  | .droppedPacket type size reason =>
    { tracingId := some id, packetType := some type, byteCount := some size,
      dropReason := some reason }
  | .updatedMetrics rtt window bytes packets =>
    { tracingId := some id, rtt := rtt, cwnd := some window, byteCount := some bytes,
      packets := some packets }
  | .acknowledgedPacket level number =>
    { tracingId := some id, encryptionLevel := some level, packetNumber := some number }
  | .lostPacket level number reason =>
    { tracingId := some id, encryptionLevel := some level, packetNumber := some number,
      lossReason := some reason }
  | .updatedCongestionState state => { tracingId := some id, congestionState := some state }
  | .updatedPtoCount value => { tracingId := some id, ptoCount := some value }
  | .updatedKeyFromTls level p =>
    { tracingId := some id, encryptionLevel := some level, perspective := some p }
  | .updatedKey generation remote =>
    { tracingId := some id, generation := some generation, flag := some remote }
  | .droppedEncryptionLevel level => { tracingId := some id, encryptionLevel := some level }
  | .droppedKey generation => { tracingId := some id, generation := some generation }
  | .setLossTimer timer level time =>
    { tracingId := some id, timerType := some timer, encryptionLevel := some level,
      time := some time }
  | .lossTimerExpired timer level =>
    { tracingId := some id, timerType := some timer, encryptionLevel := some level }
  | .lossTimerCanceled | .close => { tracingId := some id }
  | .debug name message => { tracingId := some id, key := some name, value := some message }

/-- Rebuilds an event of the kind, or names the first required field that is absent. -/
def toEvent? (m : TracerMessage) (k : EventKind) : Except MethodError ConnectionEvent :=
  let need {α : Type} (f : MessageField) (value : Option α) :=
    MethodError.required (methodFor k) f.name value
  match k with
  | .startedConnection => do
    let localAddress ← need .localAddress m.localAddress
    let remote ← need .remote m.remote
    let src ← need .srcConnId m.srcConnId
    let dest ← need .destConnId m.destConnId
    return .startedConnection localAddress remote src dest
  | .negotiatedVersion => do
    let chosen ← need .chosen m.chosen
    return .negotiatedVersion chosen (m.clientVersions.getD []) (m.serverVersions.getD [])
  | .closedConnection => return .closedConnection m.errorMsg
  | .sentTransportParameters => return .sentTransportParameters (← need .parameters m.parameters)
  | .receivedTransportParameters =>
    return .receivedTransportParameters (← need .parameters m.parameters)
  | .restoredTransportParameters =>
    return .restoredTransportParameters (← need .parameters m.parameters)
  | .sentPacket => do
    let header ← need .extendedHeader m.extendedHeader
    let size ← need .byteCount m.byteCount
    return .sentPacket header size m.ackFrame
  | .receivedVersionNegotiationPacket => do
    let header ← need .header m.header
    return .receivedVersionNegotiationPacket header (m.versions.getD [])
  | .receivedRetry => return .receivedRetry (← need .header m.header)
  | .receivedPacket => do
    let header ← need .extendedHeader m.extendedHeader
    let size ← need .byteCount m.byteCount
    return .receivedPacket header size
  | .bufferedPacket => return .bufferedPacket (← need .packetType m.packetType)
  | .droppedPacket => do
    let type ← need .packetType m.packetType
    let size ← need .byteCount m.byteCount
    let reason ← need .dropReason m.dropReason
    return .droppedPacket type size reason
  | .updatedMetrics => do
    let window ← need .cwnd m.cwnd
    let bytes ← need .byteCount m.byteCount
    let packets ← need .packets m.packets
    return .updatedMetrics m.rtt window bytes packets
  | .acknowledgedPacket => do
    let level ← need .encryptionLevel m.encryptionLevel
    let number ← need .packetNumber m.packetNumber
    return .acknowledgedPacket level number
  | .lostPacket => do
    let level ← need .encryptionLevel m.encryptionLevel
    let number ← need .packetNumber m.packetNumber
    let reason ← need .lossReason m.lossReason
    return .lostPacket level number reason
  | .updatedCongestionState =>
    return .updatedCongestionState (← need .congestionState m.congestionState)
  | .updatedPtoCount => return .updatedPtoCount (← need .ptoCount m.ptoCount)
  | .updatedKeyFromTls => do
    let level ← need .encryptionLevel m.encryptionLevel
    let p ← need .perspective m.perspective
    return .updatedKeyFromTls level p
  | .updatedKey => do
    let generation ← need .generation m.generation
    let flag ← need .flag m.flag
    return .updatedKey generation flag
  | .droppedEncryptionLevel =>
    return .droppedEncryptionLevel (← need .encryptionLevel m.encryptionLevel)
  | .droppedKey => return .droppedKey (← need .generation m.generation)
  | .setLossTimer => do
    let timer ← need .timerType m.timerType
    let level ← need .encryptionLevel m.encryptionLevel
    let time ← need .time m.time
    return .setLossTimer timer level time
  | .lossTimerExpired => do
    let timer ← need .timerType m.timerType
    let level ← need .encryptionLevel m.encryptionLevel
    return .lossTimerExpired timer level
  | .lossTimerCanceled => return .lossTimerCanceled
  | .close => return .close
  | .debug => do
    let name ← need .key m.key
    let message ← need .value m.value
    return .debug name message

end TracerMessage

instance : Described TracerMessage := ⟨TracerMessage.document⟩

instance : Readable TracerMessage := ⟨TracerMessage.ofDocument?⟩

end PathPolicy.Remote
