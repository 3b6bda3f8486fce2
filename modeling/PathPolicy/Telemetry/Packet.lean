import PathPolicy.Document.Basic
import PathPolicy.Text.Hex

/-!
# What events are about

The values carried by the events of a traced connection: packets and their headers,
acknowledgements, timers, round-trip statistics and transport parameters.
-/

namespace PathPolicy.Telemetry

/-- The side of a connection that traces it. -/
inductive Perspective
  | client
  | server
  deriving DecidableEq, Inhabited

instance : Enumeration Perspective where
  all := [.client, .server]
  name | .client => "Client" | .server => "Server"

instance : ToString Perspective := ⟨fun | .client => "client" | .server => "server"⟩

structure ConnectionId where
  bytes : List UInt8
  deriving DecidableEq, Inhabited

instance : ToString ConnectionId := ⟨fun c => Text.Hex.encode c.bytes⟩

instance : Described ConnectionId := ⟨fun c => describe c.bytes⟩

instance : Readable ConnectionId := ⟨fun d => (Readable.read? d).map .mk⟩

structure VersionNumber where
  number : UInt32
  deriving DecidableEq, Inhabited

instance : ToString VersionNumber := ⟨fun v => Text.Hex.number v.number.toNat⟩

instance : Described VersionNumber := ⟨fun v => describe v.number⟩

instance : Readable VersionNumber := ⟨fun d => (Readable.read? d).map .mk⟩

inductive PacketType
  | initial
  | handshake
  | retry
  | zeroRtt
  | versionNegotiation
  | oneRtt
  | statelessReset
  | notDetermined
  deriving DecidableEq, Inhabited

instance : Enumeration PacketType where
  all := [.initial, .handshake, .retry, .zeroRtt, .versionNegotiation, .oneRtt, .statelessReset,
    .notDetermined]
  name
    | .initial => "Initial"
    | .handshake => "Handshake"
    | .retry => "Retry"
    | .zeroRtt => "ZeroRtt"
    | .versionNegotiation => "VersionNegotiation"
    | .oneRtt => "OneRtt"
    | .statelessReset => "StatelessReset"
    | .notDetermined => "NotDetermined"

inductive PacketDropReason
  | keyUnavailable
  | unknownConnectionId
  | headerParseError
  | payloadDecryptError
  | protocolViolation
  | dosPrevention
  | unsupportedVersion
  | unexpectedPacket
  | unexpectedSourceConnectionId
  | unexpectedVersion
  | duplicatePacket
  deriving DecidableEq, Inhabited

instance : Enumeration PacketDropReason where
  all := [.keyUnavailable, .unknownConnectionId, .headerParseError, .payloadDecryptError,
    .protocolViolation, .dosPrevention, .unsupportedVersion, .unexpectedPacket,
    .unexpectedSourceConnectionId, .unexpectedVersion, .duplicatePacket]
  name
    | .keyUnavailable => "KeyUnavailable"
    | .unknownConnectionId => "UnknownConnectionId"
    | .headerParseError => "HeaderParseError"
    | .payloadDecryptError => "PayloadDecryptError"
    | .protocolViolation => "ProtocolViolation"
    | .dosPrevention => "DosPrevention"
    | .unsupportedVersion => "UnsupportedVersion"
    | .unexpectedPacket => "UnexpectedPacket"
    | .unexpectedSourceConnectionId => "UnexpectedSourceConnectionId"
    | .unexpectedVersion => "UnexpectedVersion"
    | .duplicatePacket => "DuplicatePacket"

inductive PacketLossReason
  | reorderingThreshold
  | timeThreshold
  deriving DecidableEq, Inhabited

instance : Enumeration PacketLossReason where
  all := [.reorderingThreshold, .timeThreshold]
  name | .reorderingThreshold => "ReorderingThreshold" | .timeThreshold => "TimeThreshold"

inductive EncryptionLevel
  | initial
  | handshake
  | zeroRtt
  | oneRtt
  deriving DecidableEq, Inhabited

instance : Enumeration EncryptionLevel where
  all := [.initial, .handshake, .zeroRtt, .oneRtt]
  name
    | .initial => "Initial"
    | .handshake => "Handshake"
    | .zeroRtt => "ZeroRtt"
    | .oneRtt => "OneRtt"

inductive CongestionState
  | slowStart
  | congestionAvoidance
  | recovery
  | applicationLimited
  deriving DecidableEq, Inhabited

instance : Enumeration CongestionState where
  all := [.slowStart, .congestionAvoidance, .recovery, .applicationLimited]
  name
    | .slowStart => "SlowStart"
    | .congestionAvoidance => "CongestionAvoidance"
    | .recovery => "Recovery"
    | .applicationLimited => "ApplicationLimited"

inductive TimerType
  | ack
  | pto
  deriving DecidableEq, Inhabited

instance : Enumeration TimerType where
  all := [.ack, .pto]
  name | .ack => "Ack" | .pto => "Pto"

structure PacketHeader where
  packetType : PacketType
  version : Option VersionNumber
  destConnId : ConnectionId
  srcConnId : ConnectionId
  length : UInt64
  deriving DecidableEq, Inhabited

instance : Described PacketHeader :=
  ⟨fun h => .record [
    ("packet_type", describe h.packetType),
    ("version", describe h.version),
    ("dest_conn_id", describe h.destConnId),
    ("src_conn_id", describe h.srcConnId),
    ("length", describe h.length)]⟩

instance : Readable PacketHeader :=
  ⟨fun d => do
    return {
      packetType := ← d.get? "packet_type"
      version := ← d.get? "version"
      destConnId := ← d.get? "dest_conn_id"
      srcConnId := ← d.get? "src_conn_id"
      length := ← d.get? "length" }⟩

/-- A header without its protection. -/
structure ExtendedHeader where
  header : PacketHeader
  packetNumber : Int64
  keyPhase : UInt64
  deriving DecidableEq, Inhabited

instance : Described ExtendedHeader :=
  ⟨fun h => .record [
    ("header", describe h.header),
    ("packet_number", describe h.packetNumber),
    ("key_phase", describe h.keyPhase)]⟩

instance : Readable ExtendedHeader :=
  ⟨fun d => do
    return {
      header := ← d.get? "header"
      packetNumber := ← d.get? "packet_number"
      keyPhase := ← d.get? "key_phase" }⟩

structure AckRange where
  smallest : Int64
  largest : Int64
  deriving DecidableEq, Inhabited

instance : Described AckRange :=
  ⟨fun r => .record [("smallest", describe r.smallest), ("largest", describe r.largest)]⟩

instance : Readable AckRange :=
  ⟨fun d => do
    return {
      smallest := ← d.get? "smallest"
      largest := ← d.get? "largest" }⟩

structure AckFrame where
  ranges : List AckRange
  delay : Span
  deriving DecidableEq, Inhabited

instance : Described AckFrame :=
  ⟨fun a => .record [("ranges", describe a.ranges), ("delay", describe a.delay)]⟩

instance : Readable AckFrame :=
  ⟨fun d => do
    return {
      ranges := ← d.get? "ranges"
      delay := ← d.get? "delay" }⟩

structure RttStats where
  latestRtt : Span
  minRtt : Span
  smoothedRtt : Span
  meanDeviation : Span
  maxAckDelay : Span
  pto : Span
  deriving DecidableEq, Inhabited

instance : Described RttStats :=
  ⟨fun r => .record [
    ("latest_rtt", describe r.latestRtt),
    ("min_rtt", describe r.minRtt),
    ("smoothed_rtt", describe r.smoothedRtt),
    ("mean_deviation", describe r.meanDeviation),
    ("max_ack_delay", describe r.maxAckDelay),
    ("pto", describe r.pto)]⟩

instance : Readable RttStats :=
  ⟨fun d => do
    return {
      latestRtt := ← d.get? "latest_rtt"
      minRtt := ← d.get? "min_rtt"
      smoothedRtt := ← d.get? "smoothed_rtt"
      meanDeviation := ← d.get? "mean_deviation"
      maxAckDelay := ← d.get? "max_ack_delay"
      pto := ← d.get? "pto" }⟩

/-- Sixteen bytes. -/
structure ResetToken where
  bytes : List UInt8
  length_eq : bytes.length = 16 := by decide
  deriving DecidableEq

instance : Inhabited ResetToken := ⟨{ bytes := List.replicate 16 0 }⟩

def ResetToken.ofList? (l : List UInt8) : Option ResetToken :=
  if h : l.length = 16 then some ⟨l, h⟩ else none

instance : Described ResetToken := ⟨fun t => describe t.bytes⟩

instance : Readable ResetToken := ⟨fun d => (Readable.read? d).bind ResetToken.ofList?⟩

structure TransportParameters where
  initialMaxStreamDataBidiLocal : UInt64
  initialMaxStreamDataBidiRemote : UInt64
  initialMaxStreamDataUni : UInt64
  initialMaxData : UInt64
  maxAckDelay : Span
  ackDelayExponent : UInt8
  disableActiveMigration : Bool
  maxUdpPayloadSize : UInt64
  maxUniStreamNum : UInt64
  maxBidiStreamNum : UInt64
  maxIdleTimeout : Span
  originalDestinationConnectionId : Option ConnectionId
  initialSourceConnectionId : Option ConnectionId
  retrySourceConnectionId : Option ConnectionId
  statelessResetToken : Option ResetToken
  activeConnectionIdLimit : UInt64
  maxDatagramFrameSize : UInt64
  deriving DecidableEq, Inhabited

instance : Described TransportParameters :=
  ⟨fun p => .record [
    ("initial_max_stream_data_bidi_local", describe p.initialMaxStreamDataBidiLocal),
    ("initial_max_stream_data_bidi_remote", describe p.initialMaxStreamDataBidiRemote),
    ("initial_max_stream_data_uni", describe p.initialMaxStreamDataUni),
    ("initial_max_data", describe p.initialMaxData),
    ("max_ack_delay", describe p.maxAckDelay),
    ("ack_delay_exponent", describe p.ackDelayExponent),
    ("disable_active_migration", describe p.disableActiveMigration),
    ("max_udp_payload_size", describe p.maxUdpPayloadSize),
    ("max_uni_stream_num", describe p.maxUniStreamNum),
    ("max_bidi_stream_num", describe p.maxBidiStreamNum),
    ("max_idle_timeout", describe p.maxIdleTimeout),
    ("original_destination_connection_id", describe p.originalDestinationConnectionId),
    ("initial_source_connection_id", describe p.initialSourceConnectionId),
    ("retry_source_connection_id", describe p.retrySourceConnectionId),
    ("stateless_reset_token", describe p.statelessResetToken),
    ("active_connection_id_limit", describe p.activeConnectionIdLimit),
    ("max_datagram_frame_size", describe p.maxDatagramFrameSize)]⟩

instance : Readable TransportParameters :=
  ⟨fun d => do
    return {
      initialMaxStreamDataBidiLocal := ← d.get? "initial_max_stream_data_bidi_local"
      initialMaxStreamDataBidiRemote := ← d.get? "initial_max_stream_data_bidi_remote"
      initialMaxStreamDataUni := ← d.get? "initial_max_stream_data_uni"
      initialMaxData := ← d.get? "initial_max_data"
      maxAckDelay := ← d.get? "max_ack_delay"
      ackDelayExponent := ← d.get? "ack_delay_exponent"
      disableActiveMigration := ← d.get? "disable_active_migration"
      maxUdpPayloadSize := ← d.get? "max_udp_payload_size"
      maxUniStreamNum := ← d.get? "max_uni_stream_num"
      maxBidiStreamNum := ← d.get? "max_bidi_stream_num"
      maxIdleTimeout := ← d.get? "max_idle_timeout"
      originalDestinationConnectionId := ← d.get? "original_destination_connection_id"
      initialSourceConnectionId := ← d.get? "initial_source_connection_id"
      retrySourceConnectionId := ← d.get? "retry_source_connection_id"
      statelessResetToken := ← d.get? "stateless_reset_token"
      activeConnectionIdLimit := ← d.get? "active_connection_id_limit"
      maxDatagramFrameSize := ← d.get? "max_datagram_frame_size" }⟩

end PathPolicy.Telemetry
