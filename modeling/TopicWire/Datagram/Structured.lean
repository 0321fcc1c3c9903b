import TopicWire.Datagram.Basic
import TopicWire.Text.Structured

/-!
# Datagrams as structured text

A datagram is shown as the constructor of its kind around a record of its fields in order. Bytes are
shown as a sequence of numbers, sets of ids in braces and coded fields by their variant names.
-/

set_option autoImplicit false
set_option relaxedAutoImplicit false

namespace TopicWire

/-- Bytes as a sequence of numbers. -/
def Bytes.structured (bs : Bytes) : String := Text.bracketed (bs.map fun b ↦ toString b.toNat)

/-- A set of ids in braces, ascending. -/
def IdSet.structured (s : IdSet) : String := Text.braced (s.ids.map fun id ↦ toString id.toNat)

namespace Datagram

/-- The fields of a datagram and their values, in order. -/
def structuredFields : Datagram → List (String × String)
  | connect | serverStatus | heartbeat | heartbeatRequest => []
  | connectAck ack =>
    [("client_id", toString ack.clientId.toNat),
      ("heartbeat_period", toString ack.heartbeatPeriod.toNat)]
  | connectNack nack => [("message", nack.message.bytes.structured)]
  | shutdown notice => [("reason", notice.reason.label)]
  | serverStatusAck ack => [("connected_clients", toString ack.connectedClients.toNat)]
  | ping probe => [("ping_id", toString probe.pingId.toNat)]
  | pong answer => [("ping_id", toString answer.pingId.toNat)]
  | topicRequest request =>
    [("action", request.action.label), ("topic_id", toString request.topicId.toNat)]
  | topicRequestAck ack =>
    [("response", ack.response.label), ("topic_id", toString ack.topicId.toNat)]
  | topicRequestNack nack =>
    [("response", nack.response.label), ("message", nack.message.bytes.structured)]
  | objectRequest request =>
    [("action", request.action.label), ("object_id", toString request.objectId.toNat),
      ("topic_ids", request.topicIds.structured)]
  | objectRequestAck ack =>
    [("flag", toString ack.flag.toNat), ("object_id", toString ack.objectId.toNat),
      ("final_object_id", Text.optional (ack.finalObjectId.map fun id ↦ toString id.toNat))]
  | objectRequestNack nack =>
    [("flag", toString nack.flag.toNat), ("object_id", toString nack.objectId.toNat),
      ("message", nack.message.bytes.structured)]
  | data sample =>
    [("sequence", toString sample.sequence.toNat), ("topic_id", toString sample.topicId.toNat),
      ("payload", sample.payload.bytes.structured)]

/-- A datagram as structured text. A kind without fields is shown by its name alone. -/
def structured (d : Datagram) : String :=
  let name := d.kind.variant
  let content := if d.structuredFields.isEmpty then name else Text.record name d.structuredFields
  Text.applied name content

/-- What reading answered, as structured text. -/
def structuredOutcome : Except Fault (Datagram × Nat) → String
  | .ok (d, consumed) => Text.applied "Ok" ("(" ++ d.structured ++ ", " ++ toString consumed ++ ")")
  | .error fault => Text.applied "Err" fault.structured

end Datagram

end TopicWire
