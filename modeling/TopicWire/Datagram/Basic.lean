import TopicWire.Code.Choice
import TopicWire.Flag
import TopicWire.IdSet
import TopicWire.Payload

/-!
# Datagrams

The seventeen kinds of datagram and their fields. What a wire form cannot carry is no value here:
payloads fit their size field, a set of topics fits it too, and the flag of an acknowledgement is
kept without the bit that says whether a final object id follows.
-/

set_option autoImplicit false
set_option relaxedAutoImplicit false

namespace TopicWire

/-- Grants a session: the client's id and the period of its heartbeats. -/
structure ConnectAck where
  clientId : UInt64
  heartbeatPeriod : UInt16
  deriving DecidableEq

/-- Refuses a session, with a message that need not be well-formed text. -/
structure ConnectNack where
  message : Payload
  deriving DecidableEq

/-- Ends a session. -/
structure Shutdown where
  reason : EndReason
  deriving DecidableEq

/-- Tells how many clients are connected. -/
structure ServerStatusAck where
  connectedClients : UInt64
  deriving DecidableEq

/-- Asks for a `Pong` with the same id. -/
structure Ping where
  pingId : UInt8
  deriving DecidableEq

/-- Answers a `Ping`. -/
structure Pong where
  pingId : UInt8
  deriving DecidableEq

/-- Asks to subscribe to a topic or to unsubscribe from it. -/
structure TopicRequest where
  action : TopicAction
  topicId : UInt64
  deriving DecidableEq

/-- Tells how a topic request ended. -/
structure TopicRequestAck where
  response : TopicResponse
  topicId : UInt64
  deriving DecidableEq

/-- Refuses a topic request, with a message. -/
structure TopicRequestNack where
  response : TopicResponse
  message : Payload
  deriving DecidableEq

/-- Asks to create, change or delete an object, or to move it between topics. -/
structure ObjectRequest where
  action : ObjectAction
  objectId : UInt64
  topicIds : IdSet
  length_le : IdSet.encodedLength topicIds.size ≤ maxPayloadLength
  deriving DecidableEq

/-- Acknowledges an object request. The last acknowledgement of an operation may name the object's
final id. -/
structure ObjectRequestAck where
  flag : Flag
  objectId : UInt64
  finalObjectId : Option UInt64
  flag_clear : flag &&& Flag.finalIdPresent = 0
  deriving DecidableEq

/-- Refuses an object request, with a message. -/
structure ObjectRequestNack where
  flag : Flag
  objectId : UInt64
  message : Payload
  deriving DecidableEq

/-- Application bytes published on a topic. -/
structure Data where
  sequence : UInt32
  topicId : UInt64
  payload : Payload
  deriving DecidableEq

/-- Any datagram. -/
inductive Datagram where
  /-- Asks for a session. -/
  | connect
  | connectAck (ack : ConnectAck)
  | connectNack (nack : ConnectNack)
  | shutdown (notice : Shutdown)
  /-- Asks how many clients are connected. -/
  | serverStatus
  | serverStatusAck (ack : ServerStatusAck)
  /-- Tells that the sender is alive. -/
  | heartbeat
  /-- Asks for a heartbeat now. -/
  | heartbeatRequest
  | ping (probe : Ping)
  | pong (answer : Pong)
  | topicRequest (request : TopicRequest)
  | topicRequestAck (ack : TopicRequestAck)
  | topicRequestNack (nack : TopicRequestNack)
  | objectRequest (request : ObjectRequest)
  | objectRequestAck (ack : ObjectRequestAck)
  | objectRequestNack (nack : ObjectRequestNack)
  | data (sample : Data)
  deriving DecidableEq

namespace ConnectNack

/-- A refusal with the given message bytes. -/
def ofBytes (message : Bytes) : Except ProtocolError ConnectNack :=
  (Payload.ofBytes message).map mk

/-- A refusal with the given message. -/
def ofText (message : String) : Except ProtocolError ConnectNack :=
  (Payload.ofText message).map mk

end ConnectNack

namespace Ping

/-- The answer to a ping. -/
def reply (ping : Ping) : Pong := ⟨ping.pingId⟩

end Ping

namespace Pong

/-- Whether a pong answers a ping. -/
def answers (pong : Pong) (ping : Ping) : Bool := pong.pingId == ping.pingId

end Pong

namespace TopicRequestNack

/-- A refusal of a topic request with the given message. -/
def ofText (response : TopicResponse) (message : String) :
    Except ProtocolError TopicRequestNack :=
  (Payload.ofText message).map (mk response)

end TopicRequestNack

namespace ObjectRequest

/-- A request for the given topics, if their ids fit in a payload. -/
def ofTopics (action : ObjectAction) (objectId : UInt64) (topicIds : IdSet) :
    Except ProtocolError ObjectRequest :=
  if h : IdSet.encodedLength topicIds.size ≤ maxPayloadLength then
    .ok ⟨action, objectId, topicIds, h⟩
  else .error (.payloadTooLarge (IdSet.encodedLength topicIds.size) maxPayloadLength)

/-- The number of bytes of the topic ids. -/
def length (request : ObjectRequest) : Nat := IdSet.encodedLength request.topicIds.size

/-- The size field of the topic ids. -/
def size (request : ObjectRequest) : UInt16 := UInt16.ofNat request.length

end ObjectRequest

namespace ObjectRequestAck

/-- An acknowledgement whose flag is cleared of the bit that the codec owns. -/
def ofFlag (flag : Flag) (objectId : UInt64) (finalObjectId : Option UInt64) : ObjectRequestAck :=
  ⟨flag &&& ~~~Flag.finalIdPresent, objectId, finalObjectId, by
    rw [UInt8.and_assoc]
    exact UInt8.and_zero⟩

/-- The flag as the wire carries it: its top bit says that a final object id follows. -/
def wireFlag (ack : ObjectRequestAck) : Flag :=
  match ack.finalObjectId with
  | some _ => ack.flag ||| Flag.finalIdPresent
  | none => ack.flag

end ObjectRequestAck

namespace ObjectRequestNack

/-- A refusal of an object request with the given message. Its flag always has the failed bit. -/
def ofText (flag : Flag) (objectId : UInt64) (message : String) :
    Except ProtocolError ObjectRequestNack :=
  (Payload.ofText message).map (mk (flag ||| Flag.failed) objectId)

end ObjectRequestNack

namespace Data

/-- Data with the given payload, if it is short enough. -/
def ofBytes (sequence : UInt32) (topicId : UInt64) (payload : Bytes) : Except ProtocolError Data :=
  (Payload.ofBytes payload).map (mk sequence topicId)

end Data

namespace Datagram

/-- The kind of a datagram. -/
def kind : Datagram → Kind
  | connect => .connect
  | connectAck _ => .connectAck
  | connectNack _ => .connectNack
  | shutdown _ => .shutdown
  | serverStatus => .serverStatus
  | serverStatusAck _ => .serverStatusAck
  | heartbeat => .heartbeat
  | heartbeatRequest => .heartbeatRequest
  | ping _ => .ping
  | pong _ => .pong
  | topicRequest _ => .topicRequest
  | topicRequestAck _ => .topicRequestAck
  | topicRequestNack _ => .topicRequestNack
  | objectRequest _ => .objectRequest
  | objectRequestAck _ => .objectRequestAck
  | objectRequestNack _ => .objectRequestNack
  | data _ => .data

end Datagram

end TopicWire
