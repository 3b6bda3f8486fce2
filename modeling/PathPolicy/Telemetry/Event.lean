import PathPolicy.Telemetry.Packet

/-!
# Events of a traced connection

The kinds of event in the life of a connection, and the events with what they report. An event kind
is known to peers and scripts by its `name`, and to documents by its `variant`; the two differ only
in the spelling of abbreviations.
-/

namespace PathPolicy.Telemetry

inductive EventKind
  | startedConnection
  | negotiatedVersion
  | closedConnection
  | sentTransportParameters
  | receivedTransportParameters
  | restoredTransportParameters
  | sentPacket
  | receivedVersionNegotiationPacket
  | receivedRetry
  | receivedPacket
  | bufferedPacket
  | droppedPacket
  | updatedMetrics
  | acknowledgedPacket
  | lostPacket
  | updatedCongestionState
  | updatedPtoCount
  | updatedKeyFromTls
  | updatedKey
  | droppedEncryptionLevel
  | droppedKey
  | setLossTimer
  | lossTimerExpired
  | lossTimerCanceled
  | close
  | debug
  deriving DecidableEq, Inhabited

namespace EventKind

def all : List EventKind :=
  [.startedConnection, .negotiatedVersion, .closedConnection, .sentTransportParameters,
    .receivedTransportParameters, .restoredTransportParameters, .sentPacket,
    .receivedVersionNegotiationPacket, .receivedRetry, .receivedPacket, .bufferedPacket,
    .droppedPacket, .updatedMetrics, .acknowledgedPacket, .lostPacket, .updatedCongestionState,
    .updatedPtoCount, .updatedKeyFromTls, .updatedKey, .droppedEncryptionLevel, .droppedKey,
    .setLossTimer, .lossTimerExpired, .lossTimerCanceled, .close, .debug]

def variant : EventKind → String
  | .startedConnection => "StartedConnection"
  | .negotiatedVersion => "NegotiatedVersion"
  | .closedConnection => "ClosedConnection"
  | .sentTransportParameters => "SentTransportParameters"
  | .receivedTransportParameters => "ReceivedTransportParameters"
  | .restoredTransportParameters => "RestoredTransportParameters"
  | .sentPacket => "SentPacket"
  | .receivedVersionNegotiationPacket => "ReceivedVersionNegotiationPacket"
  | .receivedRetry => "ReceivedRetry"
  | .receivedPacket => "ReceivedPacket"
  | .bufferedPacket => "BufferedPacket"
  | .droppedPacket => "DroppedPacket"
  | .updatedMetrics => "UpdatedMetrics"
  | .acknowledgedPacket => "AcknowledgedPacket"
  | .lostPacket => "LostPacket"
  | .updatedCongestionState => "UpdatedCongestionState"
  | .updatedPtoCount => "UpdatedPtoCount"
  | .updatedKeyFromTls => "UpdatedKeyFromTls"
  | .updatedKey => "UpdatedKey"
  | .droppedEncryptionLevel => "DroppedEncryptionLevel"
  | .droppedKey => "DroppedKey"
  | .setLossTimer => "SetLossTimer"
  | .lossTimerExpired => "LossTimerExpired"
  | .lossTimerCanceled => "LossTimerCanceled"
  | .close => "Close"
  | .debug => "Debug"

def name : EventKind → String
  | .updatedPtoCount => "UpdatedPTOCount"
  | .updatedKeyFromTls => "UpdatedKeyFromTLS"
  | k => k.variant

def ofName? (s : String) : Option EventKind := all.find? (·.name == s)

end EventKind

inductive ConnectionEvent
  | startedConnection (localAddress remote : String) (srcConnId destConnId : ConnectionId)
  | negotiatedVersion (chosen : VersionNumber) (clientVersions serverVersions : List VersionNumber)
  | closedConnection (reason : Option String)
  | sentTransportParameters (parameters : TransportParameters)
  | receivedTransportParameters (parameters : TransportParameters)
  | restoredTransportParameters (parameters : TransportParameters)
  | sentPacket (header : ExtendedHeader) (size : UInt64) (ack : Option AckFrame)
  | receivedVersionNegotiationPacket (header : PacketHeader) (versions : List VersionNumber)
  | receivedRetry (header : PacketHeader)
  | receivedPacket (header : ExtendedHeader) (size : UInt64)
  | bufferedPacket (packetType : PacketType)
  | droppedPacket (packetType : PacketType) (size : UInt64) (reason : PacketDropReason)
  | updatedMetrics (rtt : Option RttStats) (congestionWindow bytesInFlight packetsInFlight : UInt64)
  | acknowledgedPacket (encryptionLevel : EncryptionLevel) (packetNumber : Int64)
  | lostPacket (encryptionLevel : EncryptionLevel) (packetNumber : Int64)
      (reason : PacketLossReason)
  | updatedCongestionState (state : CongestionState)
  | updatedPtoCount (value : UInt32)
  | updatedKeyFromTls (encryptionLevel : EncryptionLevel) (perspective : Perspective)
  | updatedKey (generation : UInt64) (remote : Bool)
  | droppedEncryptionLevel (encryptionLevel : EncryptionLevel)
  | droppedKey (generation : UInt64)
  | setLossTimer (timerType : TimerType) (encryptionLevel : EncryptionLevel) (time : Instant)
  | lossTimerExpired (timerType : TimerType) (encryptionLevel : EncryptionLevel)
  | lossTimerCanceled
  | close
  | debug (name message : String)
  deriving DecidableEq, Inhabited

namespace ConnectionEvent

def kind : ConnectionEvent → EventKind
  | .startedConnection .. => .startedConnection
  | .negotiatedVersion .. => .negotiatedVersion
  | .closedConnection .. => .closedConnection
  | .sentTransportParameters .. => .sentTransportParameters
  | .receivedTransportParameters .. => .receivedTransportParameters
  | .restoredTransportParameters .. => .restoredTransportParameters
  | .sentPacket .. => .sentPacket
  | .receivedVersionNegotiationPacket .. => .receivedVersionNegotiationPacket
  | .receivedRetry .. => .receivedRetry
  | .receivedPacket .. => .receivedPacket
  | .bufferedPacket .. => .bufferedPacket
  | .droppedPacket .. => .droppedPacket
  | .updatedMetrics .. => .updatedMetrics
  | .acknowledgedPacket .. => .acknowledgedPacket
  | .lostPacket .. => .lostPacket
  | .updatedCongestionState .. => .updatedCongestionState
  | .updatedPtoCount .. => .updatedPtoCount
  | .updatedKeyFromTls .. => .updatedKeyFromTls
  | .updatedKey .. => .updatedKey
  | .droppedEncryptionLevel .. => .droppedEncryptionLevel
  | .droppedKey .. => .droppedKey
  | .setLossTimer .. => .setLossTimer
  | .lossTimerExpired .. => .lossTimerExpired
  | .lossTimerCanceled => .lossTimerCanceled
  | .close => .close
  | .debug .. => .debug

/-- The fields of the event under their names, in order; empty for an event that is only a kind. -/
def fields : ConnectionEvent → List (String × Document)
  | .startedConnection localAddress remote srcConnId destConnId =>
    [("local", describe localAddress), ("remote", describe remote),
      ("src_conn_id", describe srcConnId), ("dest_conn_id", describe destConnId)]
  | .negotiatedVersion chosen clientVersions serverVersions =>
    [("chosen", describe chosen), ("client_versions", describe clientVersions),
      ("server_versions", describe serverVersions)]
  | .closedConnection reason => [("reason", describe reason)]
  | .sentTransportParameters parameters => [("parameters", describe parameters)]
  | .receivedTransportParameters parameters => [("parameters", describe parameters)]
  | .restoredTransportParameters parameters => [("parameters", describe parameters)]
  | .sentPacket header size ack =>
    [("header", describe header), ("size", describe size), ("ack", describe ack)]
  | .receivedVersionNegotiationPacket header versions =>
    [("header", describe header), ("versions", describe versions)]
  | .receivedRetry header => [("header", describe header)]
  | .receivedPacket header size => [("header", describe header), ("size", describe size)]
  | .bufferedPacket packetType => [("packet_type", describe packetType)]
  | .droppedPacket packetType size reason =>
    [("packet_type", describe packetType), ("size", describe size), ("reason", describe reason)]
  | .updatedMetrics rtt congestionWindow bytesInFlight packetsInFlight =>
    [("rtt", describe rtt), ("congestion_window", describe congestionWindow),
      ("bytes_in_flight", describe bytesInFlight), ("packets_in_flight", describe packetsInFlight)]
  | .acknowledgedPacket encryptionLevel packetNumber =>
    [("encryption_level", describe encryptionLevel), ("packet_number", describe packetNumber)]
  | .lostPacket encryptionLevel packetNumber reason =>
    [("encryption_level", describe encryptionLevel), ("packet_number", describe packetNumber),
      ("reason", describe reason)]
  | .updatedCongestionState state => [("state", describe state)]
  | .updatedPtoCount value => [("value", describe value)]
  | .updatedKeyFromTls encryptionLevel perspective =>
    [("encryption_level", describe encryptionLevel), ("perspective", describe perspective)]
  | .updatedKey generation remote =>
    [("generation", describe generation), ("remote", describe remote)]
  | .droppedEncryptionLevel encryptionLevel => [("encryption_level", describe encryptionLevel)]
  | .droppedKey generation => [("generation", describe generation)]
  | .setLossTimer timerType encryptionLevel time =>
    [("timer_type", describe timerType), ("encryption_level", describe encryptionLevel),
      ("time", describe time)]
  | .lossTimerExpired timerType encryptionLevel =>
    [("timer_type", describe timerType), ("encryption_level", describe encryptionLevel)]
  | .lossTimerCanceled => []
  | .close => []
  | .debug name message => [("name", describe name), ("message", describe message)]

/-- A record of the fields under the variant's name, or the bare name without fields. -/
def document (e : ConnectionEvent) : Document :=
  match e.fields with
  | [] => .text e.kind.variant
  | fields => .record [(e.kind.variant, .record fields)]

/-- The event of the kind with the given fields. -/
def ofFields? (k : EventKind) (d : Document) : Option ConnectionEvent :=
  match k with
  | .startedConnection =>
    return .startedConnection (← d.get? "local") (← d.get? "remote") (← d.get? "src_conn_id")
      (← d.get? "dest_conn_id")
  | .negotiatedVersion =>
    return .negotiatedVersion (← d.get? "chosen") (← d.get? "client_versions")
      (← d.get? "server_versions")
  | .closedConnection => return .closedConnection (← d.get? "reason")
  | .sentTransportParameters => return .sentTransportParameters (← d.get? "parameters")
  | .receivedTransportParameters => return .receivedTransportParameters (← d.get? "parameters")
  | .restoredTransportParameters => return .restoredTransportParameters (← d.get? "parameters")
  | .sentPacket => return .sentPacket (← d.get? "header") (← d.get? "size") (← d.get? "ack")
  | .receivedVersionNegotiationPacket =>
    return .receivedVersionNegotiationPacket (← d.get? "header") (← d.get? "versions")
  | .receivedRetry => return .receivedRetry (← d.get? "header")
  | .receivedPacket => return .receivedPacket (← d.get? "header") (← d.get? "size")
  | .bufferedPacket => return .bufferedPacket (← d.get? "packet_type")
  | .droppedPacket =>
    return .droppedPacket (← d.get? "packet_type") (← d.get? "size") (← d.get? "reason")
  | .updatedMetrics =>
    return .updatedMetrics (← d.get? "rtt") (← d.get? "congestion_window")
      (← d.get? "bytes_in_flight") (← d.get? "packets_in_flight")
  | .acknowledgedPacket =>
    return .acknowledgedPacket (← d.get? "encryption_level") (← d.get? "packet_number")
  | .lostPacket =>
    return .lostPacket (← d.get? "encryption_level") (← d.get? "packet_number") (← d.get? "reason")
  | .updatedCongestionState => return .updatedCongestionState (← d.get? "state")
  | .updatedPtoCount => return .updatedPtoCount (← d.get? "value")
  | .updatedKeyFromTls =>
    return .updatedKeyFromTls (← d.get? "encryption_level") (← d.get? "perspective")
  | .updatedKey => return .updatedKey (← d.get? "generation") (← d.get? "remote")
  | .droppedEncryptionLevel => return .droppedEncryptionLevel (← d.get? "encryption_level")
  | .droppedKey => return .droppedKey (← d.get? "generation")
  | .setLossTimer =>
    return .setLossTimer (← d.get? "timer_type") (← d.get? "encryption_level") (← d.get? "time")
  | .lossTimerExpired =>
    return .lossTimerExpired (← d.get? "timer_type") (← d.get? "encryption_level")
  | .lossTimerCanceled => return .lossTimerCanceled
  | .close => return .close
  | .debug => return .debug (← d.get? "name") (← d.get? "message")

/-- The event a document shows. -/
def ofDocument? : Document → Option ConnectionEvent
  | .text s => do ofFields? (← EventKind.all.find? (·.variant == s)) .absent
  | .record [(s, d)] => do ofFields? (← EventKind.all.find? (·.variant == s)) d
  | _ => none

end ConnectionEvent

instance : Described ConnectionEvent := ⟨ConnectionEvent.document⟩

instance : Readable ConnectionEvent := ⟨ConnectionEvent.ofDocument?⟩

end PathPolicy.Telemetry
