import TopicWire.Datagram.Structured
import TopicWire.Text.Hex

/-!
# Datagrams in one line

A datagram is described by its fields on one line. Messages come from the other side of the wire, so
they stand in quotes with everything escaped that could break the line or hide in it. Of a payload
only the first sixteen bytes are shown.
-/

set_option autoImplicit false
set_option relaxedAutoImplicit false

namespace TopicWire.Datagram

/-- The fields of a datagram on one line. -/
def describe : Datagram → String
  | connect | serverStatus | heartbeat | heartbeatRequest => ""
  | connectAck ack =>
    "client=" ++ toString ack.clientId.toNat ++ " heartbeat=" ++
      toString ack.heartbeatPeriod.toNat
  | connectNack nack => Text.quoted nack.message.text
  | shutdown notice => "reason=" ++ notice.reason.label
  | serverStatusAck ack => "connected=" ++ toString ack.connectedClients.toNat
  | ping probe => "id=" ++ toString probe.pingId.toNat
  | pong answer => "id=" ++ toString answer.pingId.toNat
  | topicRequest request => request.action.label ++ " topic=" ++ toString request.topicId.toNat
  | topicRequestAck ack => ack.response.label ++ " topic=" ++ toString ack.topicId.toNat
  | topicRequestNack nack => nack.response.label ++ " " ++ Text.quoted nack.message.text
  | objectRequest request =>
    request.action.label ++ " object=" ++ toString request.objectId.toNat ++ " topics=" ++
      request.topicIds.structured
  | objectRequestAck ack =>
    "flag=" ++ Text.Hex.marked ack.flag ++ " object=" ++ toString ack.objectId.toNat ++
      (ack.finalObjectId.elim "" fun id ↦ " final=" ++ toString id.toNat)
  | objectRequestNack nack =>
    "flag=" ++ Text.Hex.marked nack.flag ++ " object=" ++ toString nack.objectId.toNat ++ " " ++
      Text.quoted nack.message.text
  | data sample =>
    "topic=" ++ toString sample.topicId.toNat ++ " seq=" ++ toString sample.sequence.toNat ++
      " len=" ++ toString sample.payload.length ++ " " ++
      Text.Hex.encode (sample.payload.bytes.take 16)

end TopicWire.Datagram
