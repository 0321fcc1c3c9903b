import TopicWire.Datagram.Encode
import TopicWire.Text.Hex

/-!
# A sample capture

One session with a datagram of every kind, and a topic on which two numbers are missing.
-/

set_option autoImplicit false
set_option relaxedAutoImplicit false

namespace TopicWire.Command

/-- The datagrams of the sample. -/
def sampleDatagrams : Except ProtocolError (List Datagram) := do
  let serverFull ← ConnectNack.ofText "server full"
  let unknownTopic ← TopicRequestNack.ofText .subFailure "unknown topic"
  let creation ← ObjectRequest.ofTopics .create 7 (IdSet.ofList [42, 43])
  let objectLocked ← ObjectRequestNack.ofText Flag.delete 8 "object locked"
  let hello ← Data.ofBytes 1 42 (Text.Utf8.encode "hello")
  let world ← Data.ofBytes 2 42 (Text.Utf8.encode "world")
  let late ← Data.ofBytes 5 42 (Text.Utf8.encode "late")
  return [
    .connect,
    .connectAck ⟨1, 30⟩,
    .connectNack serverFull,
    .serverStatus,
    .serverStatusAck ⟨4⟩,
    .heartbeatRequest,
    .heartbeat,
    .ping ⟨5⟩,
    .pong ⟨5⟩,
    .topicRequest ⟨.subscribe, 42⟩,
    .topicRequestAck ⟨.subSuccess, 42⟩,
    .topicRequestNack unknownTopic,
    .objectRequest creation,
    .objectRequestAck (.ofFlag Flag.create 7 (some 1007)),
    .objectRequestNack objectLocked,
    .data hello,
    .data world,
    .data late,
    .shutdown ⟨.shutdown⟩]

/-- The capture of the sample: its wire forms one after the other. -/
def sampleCapture : Except ProtocolError Bytes :=
  sampleDatagrams.map fun datagrams ↦ datagrams.flatMap Datagram.wire

end TopicWire.Command
