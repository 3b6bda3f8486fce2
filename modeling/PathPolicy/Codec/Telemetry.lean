import PathPolicy.Codec.Path
import PathPolicy.Telemetry.Event

/-!
# Telemetry values as records
-/

namespace PathPolicy.Codec

open Telemetry

def connectionId : Codec ConnectionId := bytes.map .mk ConnectionId.bytes

def versionNumber : Codec VersionNumber := u32.map .mk VersionNumber.number

def packetHeader : Codec PacketHeader :=
  (pair enumeration <| pair (option versionNumber) <| pair connectionId <|
    pair connectionId u64).map
    (fun (a, b, c, d, e) => ⟨a, b, c, d, e⟩)
    fun h => (h.packetType, h.version, h.destConnId, h.srcConnId, h.length)

def extendedHeader : Codec ExtendedHeader :=
  (pair packetHeader <| pair i64 u64).map (fun (a, b, c) => ⟨a, b, c⟩)
    fun h => (h.header, h.packetNumber, h.keyPhase)

def ackRange : Codec AckRange :=
  (pair i64 i64).map (fun (a, b) => ⟨a, b⟩) fun r => (r.smallest, r.largest)

def ackFrame : Codec AckFrame :=
  (pair (list ackRange) span).map (fun (a, b) => ⟨a, b⟩) fun a => (a.ranges, a.delay)

def rttStats : Codec RttStats :=
  (pair span <| pair span <| pair span <| pair span <| pair span span).map
    (fun (a, b, c, d, e, f) => ⟨a, b, c, d, e, f⟩)
    fun r => (r.latestRtt, r.minRtt, r.smoothedRtt, r.meanDeviation, r.maxAckDelay, r.pto)

/-- Sixteen bytes without their number. -/
def resetToken : Codec ResetToken where
  encode t := .ok t.bytes
  decode input :=
    match takeExact 16 input with
    | none => .error .endOfInput
    | some (front, rest) =>
      match ResetToken.ofList? front with
      | none => .error .endOfInput
      | some t => .ok (t, rest)

def transportParameters : Codec TransportParameters :=
  (pair u64 <| pair u64 <| pair u64 <| pair u64 <| pair span <| pair u8 <| pair boolean <|
    pair u64 <| pair u64 <| pair u64 <| pair span <| pair (option connectionId) <|
    pair (option connectionId) <| pair (option connectionId) <| pair (option resetToken) <|
    pair u64 u64).map
    (fun (initialMaxStreamDataBidiLocal, initialMaxStreamDataBidiRemote,
      initialMaxStreamDataUni, initialMaxData, maxAckDelay, ackDelayExponent,
      disableActiveMigration, maxUdpPayloadSize, maxUniStreamNum, maxBidiStreamNum,
      maxIdleTimeout, originalDestinationConnectionId, initialSourceConnectionId,
      retrySourceConnectionId, statelessResetToken, activeConnectionIdLimit,
      maxDatagramFrameSize) =>
      { initialMaxStreamDataBidiLocal, initialMaxStreamDataBidiRemote, initialMaxStreamDataUni,
        initialMaxData, maxAckDelay, ackDelayExponent, disableActiveMigration,
        maxUdpPayloadSize, maxUniStreamNum, maxBidiStreamNum, maxIdleTimeout,
        originalDestinationConnectionId, initialSourceConnectionId, retrySourceConnectionId,
        statelessResetToken, activeConnectionIdLimit, maxDatagramFrameSize })
    fun m => (m.initialMaxStreamDataBidiLocal, m.initialMaxStreamDataBidiRemote,
      m.initialMaxStreamDataUni, m.initialMaxData, m.maxAckDelay, m.ackDelayExponent,
      m.disableActiveMigration, m.maxUdpPayloadSize, m.maxUniStreamNum, m.maxBidiStreamNum,
      m.maxIdleTimeout, m.originalDestinationConnectionId, m.initialSourceConnectionId,
      m.retrySourceConnectionId, m.statelessResetToken, m.activeConnectionIdLimit,
      m.maxDatagramFrameSize)

/-- The body of the event with the given number. -/
def eventBody : Nat → Codec ConnectionEvent
  | 0 => variant (fun | .startedConnection a b c d => some (a, b, c, d) | _ => none)
    (fun (a, b, c, d) => .startedConnection a b c d)
    (pair text (pair text (pair connectionId connectionId)))
  | 1 => variant (fun | .negotiatedVersion a b c => some (a, b, c) | _ => none)
    (fun (a, b, c) => .negotiatedVersion a b c)
    (pair versionNumber (pair (list versionNumber) (list versionNumber)))
  | 2 => variant (fun | .closedConnection a => some a | _ => none)
    (fun a => .closedConnection a) (option text)
  | 3 => variant (fun | .sentTransportParameters a => some a | _ => none)
    (fun a => .sentTransportParameters a) transportParameters
  | 4 => variant (fun | .receivedTransportParameters a => some a | _ => none)
    (fun a => .receivedTransportParameters a) transportParameters
  | 5 => variant (fun | .restoredTransportParameters a => some a | _ => none)
    (fun a => .restoredTransportParameters a) transportParameters
  | 6 => variant (fun | .sentPacket a b c => some (a, b, c) | _ => none)
    (fun (a, b, c) => .sentPacket a b c) (pair extendedHeader (pair u64 (option ackFrame)))
  | 7 => variant (fun | .receivedVersionNegotiationPacket a b => some (a, b) | _ => none)
    (fun (a, b) => .receivedVersionNegotiationPacket a b) (pair packetHeader (list versionNumber))
  | 8 => variant (fun | .receivedRetry a => some a | _ => none)
    (fun a => .receivedRetry a) packetHeader
  | 9 => variant (fun | .receivedPacket a b => some (a, b) | _ => none)
    (fun (a, b) => .receivedPacket a b) (pair extendedHeader u64)
  | 10 => variant (fun | .bufferedPacket a => some a | _ => none)
    (fun a => .bufferedPacket a) enumeration
  | 11 => variant (fun | .droppedPacket a b c => some (a, b, c) | _ => none)
    (fun (a, b, c) => .droppedPacket a b c) (pair enumeration (pair u64 enumeration))
  | 12 => variant (fun | .updatedMetrics a b c d => some (a, b, c, d) | _ => none)
    (fun (a, b, c, d) => .updatedMetrics a b c d) (pair (option rttStats) (pair u64 (pair u64 u64)))
  | 13 => variant (fun | .acknowledgedPacket a b => some (a, b) | _ => none)
    (fun (a, b) => .acknowledgedPacket a b) (pair enumeration i64)
  | 14 => variant (fun | .lostPacket a b c => some (a, b, c) | _ => none)
    (fun (a, b, c) => .lostPacket a b c) (pair enumeration (pair i64 enumeration))
  | 15 => variant (fun | .updatedCongestionState a => some a | _ => none)
    (fun a => .updatedCongestionState a) enumeration
  | 16 => variant (fun | .updatedPtoCount a => some a | _ => none) (fun a => .updatedPtoCount a) u32
  | 17 => variant (fun | .updatedKeyFromTls a b => some (a, b) | _ => none)
    (fun (a, b) => .updatedKeyFromTls a b) (pair enumeration enumeration)
  | 18 => variant (fun | .updatedKey a b => some (a, b) | _ => none)
    (fun (a, b) => .updatedKey a b) (pair u64 boolean)
  | 19 => variant (fun | .droppedEncryptionLevel a => some a | _ => none)
    (fun a => .droppedEncryptionLevel a) enumeration
  | 20 => variant (fun | .droppedKey a => some a | _ => none) (fun a => .droppedKey a) u64
  | 21 => variant (fun | .setLossTimer a b c => some (a, b, c) | _ => none)
    (fun (a, b, c) => .setLossTimer a b c) (pair enumeration (pair enumeration instant))
  | 22 => variant (fun | .lossTimerExpired a b => some (a, b) | _ => none)
    (fun (a, b) => .lossTimerExpired a b) (pair enumeration enumeration)
  | 23 => constant .lossTimerCanceled
  | 24 => constant .close
  | 25 => variant (fun | .debug a b => some (a, b) | _ => none)
    (fun (a, b) => .debug a b) (pair text text)
  | _ => constant .close

def connectionEvent : Codec ConnectionEvent :=
  tagged EventKind.all.length (fun e => EventKind.all.idxOf e.kind) eventBody

end PathPolicy.Codec
