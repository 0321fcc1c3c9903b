import TopicWire.Datagram.Basic
import TopicWire.Frame

/-!
# Reading datagrams

`Datagram.ofFrame` reads the fields of a frame of a known kind. `Datagram.decodeAs` reads a datagram
of one kind off the front of a byte string and refuses any other; `Datagram.decode` takes the kind
from the first byte. Both answer the datagram and the number of bytes it occupies, and both read
fields only after the frame has been found complete.
-/

set_option autoImplicit false
set_option relaxedAutoImplicit false

namespace TopicWire.Datagram

/-- The datagram of a kind that a frame carries. -/
def ofFrame (kind : Kind) (frame : Frame) : Except Fault Datagram :=
  match kind with
  | .connect => return connect
  | .connectAck => do
    let clientId ← frame.u64At 1
    let heartbeatPeriod ← frame.u16At 9
    return connectAck ⟨clientId, heartbeatPeriod⟩
  | .connectNack => do
    let message ← frame.payload
    return connectNack ⟨message⟩
  | .shutdown => do
    let code ← frame.u8At 1
    return shutdown ⟨EndReason.ofCode code⟩
  | .serverStatus => return serverStatus
  | .serverStatusAck => do
    let connectedClients ← frame.u64At 1
    return serverStatusAck ⟨connectedClients⟩
  | .heartbeat => return heartbeat
  | .heartbeatRequest => return heartbeatRequest
  | .ping => do
    let pingId ← frame.u8At 1
    return ping ⟨pingId⟩
  | .pong => do
    let pingId ← frame.u8At 1
    return pong ⟨pingId⟩
  | .topicRequest => do
    let code ← frame.u8At 1
    let topicId ← frame.u64At 2
    return topicRequest ⟨TopicAction.ofCode code, topicId⟩
  | .topicRequestAck => do
    let code ← frame.u8At 1
    let topicId ← frame.u64At 2
    return topicRequestAck ⟨TopicResponse.ofCode code, topicId⟩
  | .topicRequestNack => do
    let code ← frame.u8At 1
    let message ← frame.payload
    return topicRequestNack ⟨TopicResponse.ofCode code, message⟩
  | .objectRequest => do
    let code ← frame.u8At 1
    let objectId ← frame.u64At 4
    let count ← (IdSet.countForSize frame.body.length).mapError .refused
    let topicIds ← (IdSet.decode frame.body count).mapError .refused
    let request ← (ObjectRequest.ofTopics (ObjectAction.ofCode code) objectId topicIds).mapError
      .refused
    return objectRequest request
  | .objectRequestAck => do
    let flag ← frame.u8At 1
    let objectId ← frame.u64At 2
    if Flag.has flag .finalIdPresent then
      let finalId ← frame.bodyId
      return objectRequestAck (.ofFlag flag objectId (some finalId))
    else return objectRequestAck (.ofFlag flag objectId none)
  | .objectRequestNack => do
    let flag ← frame.u8At 1
    let objectId ← frame.u64At 4
    let message ← frame.payload
    return objectRequestNack ⟨flag, objectId, message⟩
  | .data => do
    let sequence ← frame.u32At 3
    let topicId ← frame.u64At 7
    let payload ← frame.payload
    return data ⟨sequence, topicId, payload⟩
  | .openStream | .unknown => throw (.refused (.unsupportedType kind))

/-- Reads a datagram of one kind off the front of a byte string. -/
def decodeAs (kind : Kind) (buf : Bytes) : Except Fault (Datagram × Nat) :=
  match buf, kind.layout? with
  | [], _ => throw (.refused .empty)
  | _ :: _, none => throw (.refused (.unsupportedType kind))
  | code :: _, some layout =>
    if code = kind.code then do
      let frame ← Frame.read kind layout buf
      let datagram ← ofFrame kind frame
      return (datagram, frame.length)
    else throw (.refused (.unexpectedType kind code))

/-- Reads the datagram at the front of a byte string, of the kind its first byte names. -/
def decode (buf : Bytes) : Except Fault (Datagram × Nat) :=
  match Kind.peek? buf with
  | none => throw (.refused .empty)
  | some kind => decodeAs kind buf

end TopicWire.Datagram
