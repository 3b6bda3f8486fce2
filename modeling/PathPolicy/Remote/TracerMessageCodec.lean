import PathPolicy.Codec.Telemetry
import PathPolicy.Remote.TracerMessage

/-!
# The message about a traced connection as a record

All thirty-three fields in order, each optional.
-/

namespace PathPolicy.Codec

open Remote Telemetry

def tracerMessage : Codec TracerMessage :=
  (pair (option tracingId) <| pair (option enumeration) <| pair (option connectionId) <|
    pair (option text) <| pair (option text) <| pair (option connectionId) <|
    pair (option connectionId) <| pair (option versionNumber) <|
    pair (option (list versionNumber)) <| pair (option (list versionNumber)) <|
    pair (option (list versionNumber)) <| pair (option text) <| pair (option text) <|
    pair (option text) <| pair (option transportParameters) <| pair (option u64) <|
    pair (option u64) <| pair (option u64) <| pair (option rttStats) <|
    pair (option packetHeader) <| pair (option extendedHeader) <| pair (option ackFrame) <|
    pair (option enumeration) <| pair (option enumeration) <| pair (option enumeration) <|
    pair (option enumeration) <| pair (option i64) <| pair (option enumeration) <|
    pair (option u32) <| pair (option u64) <| pair (option boolean) <|
    pair (option enumeration) (option instant)).map
    (fun (tracingId, perspective, odcid, localAddress, remote, srcConnId, destConnId, chosen,
      versions, clientVersions, serverVersions, errorMsg, key, value, parameters, byteCount,
      cwnd, packets, rtt, header, extendedHeader, ackFrame, packetType, dropReason, lossReason,
      encryptionLevel, packetNumber, congestionState, ptoCount, generation, flag, timerType,
      time) =>
      { tracingId, perspective, odcid, localAddress, remote, srcConnId, destConnId, chosen,
        versions, clientVersions, serverVersions, errorMsg, key, value, parameters, byteCount,
        cwnd, packets, rtt, header, extendedHeader, ackFrame, packetType, dropReason,
        lossReason, encryptionLevel, packetNumber, congestionState, ptoCount, generation, flag,
        timerType, time })
    fun m => (m.tracingId, m.perspective, m.odcid, m.localAddress, m.remote, m.srcConnId,
      m.destConnId, m.chosen, m.versions, m.clientVersions, m.serverVersions, m.errorMsg, m.key,
      m.value, m.parameters, m.byteCount, m.cwnd, m.packets, m.rtt, m.header, m.extendedHeader,
      m.ackFrame, m.packetType, m.dropReason, m.lossReason, m.encryptionLevel, m.packetNumber,
      m.congestionState, m.ptoCount, m.generation, m.flag, m.timerType, m.time)

end PathPolicy.Codec
