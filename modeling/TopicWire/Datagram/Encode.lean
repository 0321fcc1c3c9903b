import TopicWire.Buffer
import TopicWire.Datagram.Basic
import TopicWire.Frame

/-!
# Writing datagrams

`Datagram.writes` lists the steps that write a datagram: its kind, its fields in wire order and its
body. Forms of more than two bytes make room for all of it first. `Datagram.wire` is the form
itself and `encodedLength` its length, counted without writing.
-/

set_option autoImplicit false
set_option relaxedAutoImplicit false

namespace TopicWire.Datagram

/-- The number of bytes of the body. -/
def bodyLength : Datagram → Nat
  | connectNack nack => nack.message.length
  | topicRequestNack nack => nack.message.length
  | objectRequest request => request.length
  | objectRequestAck ack => if ack.finalObjectId.isSome then 8 else 0
  | objectRequestNack nack => nack.message.length
  | data sample => sample.payload.length
  | _ => 0

/-- The number of bytes of the wire form. -/
def encodedLength (d : Datagram) : Nat :=
  (d.kind.layout?.elim 0 Layout.headerLength) + d.bodyLength

/-- Whether room for the whole form is made before its first byte. -/
def reservesFirst (d : Datagram) : Bool := 2 < d.encodedLength

/-- The fields after the kind, and the body. -/
def fieldWrites : Datagram → List Write
  | connect | serverStatus | heartbeat | heartbeatRequest => []
  | connectAck ack => [.u64 ack.clientId, .u16 ack.heartbeatPeriod]
  | connectNack nack => [.u16 nack.message.size, .append nack.message.bytes]
  | shutdown notice => [.u8 notice.reason.code]
  | serverStatusAck ack => [.u64 ack.connectedClients]
  | ping probe => [.u8 probe.pingId]
  | pong answer => [.u8 answer.pingId]
  | topicRequest request => [.u8 request.action.code, .u64 request.topicId]
  | topicRequestAck ack => [.u8 ack.response.code, .u64 ack.topicId]
  | topicRequestNack nack =>
    [.u8 nack.response.code, .u16 nack.message.size, .append nack.message.bytes]
  | objectRequest request =>
    [.u8 request.action.code, .u16 request.size, .u64 request.objectId] ++
      request.topicIds.writes
  | objectRequestAck ack =>
    [.u8 ack.wireFlag, .u64 ack.objectId] ++ (ack.finalObjectId.map Write.u64).toList
  | objectRequestNack nack =>
    [.u8 nack.flag, .u16 nack.message.size, .u64 nack.objectId, .append nack.message.bytes]
  | data sample =>
    [.u16 sample.payload.size, .u32 sample.sequence, .u64 sample.topicId,
      .append sample.payload.bytes]

/-- The steps that write a datagram. -/
def writes (d : Datagram) : List Write :=
  (if d.reservesFirst then [.reserve d.encodedLength] else []) ++ .u8 d.kind.code :: d.fieldWrites

/-- The wire form of a datagram. -/
def wire (d : Datagram) : Bytes := Write.bytesOf d.writes

/-- Appends a datagram to a buffer. -/
def encodeInto (growth : Growth) (d : Datagram) (b : Buffer) : Buffer :=
  b.writeAll growth d.writes

/-- A datagram in a buffer of its own, with room for exactly its wire form from the start. -/
def encode (growth : Growth) (d : Datagram) : Buffer :=
  d.encodeInto growth (Buffer.withCapacity d.encodedLength)

/-- Encoding appends the wire form and keeps what was there. -/
theorem bytes_encodeInto (growth : Growth) (d : Datagram) (b : Buffer) :
    (d.encodeInto growth b).bytes = b.bytes ++ d.wire :=
  Buffer.bytes_writeAll growth b d.writes

/-- The content of the buffer of its own is the wire form. -/
theorem bytes_encode (growth : Growth) (d : Datagram) : (d.encode growth).bytes = d.wire := by
  rw [encode, bytes_encodeInto]
  rfl

end TopicWire.Datagram
