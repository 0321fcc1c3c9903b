import TopicWire.Code.Basic

/-!
# Kinds of datagram

The first byte of every datagram names its kind. `Kind` is the set of kinds with their codes; the
codes are part of the wire format and pairwise distinct. `Kind.peek?` reads the kind off a byte
string without looking further.
-/

set_option autoImplicit false
set_option relaxedAutoImplicit false

namespace TopicWire

/-- A kind of datagram, as its first byte names it. -/
inductive Kind where
  | connect
  | connectAck
  | connectNack
  | shutdown
  /-- Has a code but no layout yet. -/
  | openStream
  | serverStatus
  | serverStatusAck
  | heartbeat
  | heartbeatRequest
  | ping
  | pong
  | topicRequest
  | topicRequestAck
  | topicRequestNack
  | objectRequest
  | objectRequestAck
  | objectRequestNack
  | data
  | unknown
  deriving DecidableEq, Repr

namespace Kind

/-- Every kind, in table order. -/
def all : List Kind :=
  [.connect, .connectAck, .connectNack, .shutdown, .openStream, .serverStatus, .serverStatusAck,
    .heartbeat, .heartbeatRequest, .ping, .pong, .topicRequest, .topicRequestAck,
    .topicRequestNack, .objectRequest, .objectRequestAck, .objectRequestNack, .data, .unknown]

/-- The byte that names a kind on the wire. -/
def code : Kind → UInt8
  | connect => 0xF0
  | connectAck => 0xF1
  | connectNack => 0xF2
  | shutdown => 0xFF
  | openStream => 0xFA
  | serverStatus => 0x30
  | serverStatusAck => 0x00
  | heartbeat => 0x60
  | heartbeatRequest => 0x61
  | ping => 0x62
  | pong => 0x72
  | topicRequest => 0x45
  | topicRequestAck => 0x05
  | topicRequestNack => 0x15
  | objectRequest => 0x48
  | objectRequestAck => 0x08
  | objectRequestNack => 0x18
  | data => 0x42
  | unknown => 0xAA

/-- The name of a kind in reports and error messages. -/
def label : Kind → String
  | connect => "Connect"
  | connectAck => "Connect_ACK"
  | connectNack => "Connect_NACK"
  | shutdown => "Shutdown"
  | openStream => "Open_Stream"
  | serverStatus => "Server_Status"
  | serverStatusAck => "Server_Status_Ack"
  | heartbeat => "HeartBeat"
  | heartbeatRequest => "HeartBeat_Request"
  | ping => "Ping"
  | pong => "Pong"
  | topicRequest => "Topic_Request"
  | topicRequestAck => "Topic_Request_Ack"
  | topicRequestNack => "Topic_Request_Nack"
  | objectRequest => "Object_Request"
  | objectRequestAck => "Object_Request_Ack"
  | objectRequestNack => "Object_Request_Nack"
  | data => "Data"
  | unknown => "Unknown"

/-- The name of a kind in structured text. -/
def variant : Kind → String
  | connect => "Connect"
  | connectAck => "ConnectAck"
  | connectNack => "ConnectNack"
  | shutdown => "Shutdown"
  | openStream => "OpenStream"
  | serverStatus => "ServerStatus"
  | serverStatusAck => "ServerStatusAck"
  | heartbeat => "Heartbeat"
  | heartbeatRequest => "HeartbeatRequest"
  | ping => "Ping"
  | pong => "Pong"
  | topicRequest => "TopicRequest"
  | topicRequestAck => "TopicRequestAck"
  | topicRequestNack => "TopicRequestNack"
  | objectRequest => "ObjectRequest"
  | objectRequestAck => "ObjectRequestAck"
  | objectRequestNack => "ObjectRequestNack"
  | data => "Data"
  | unknown => "Unknown"

instance : Coded Kind := ⟨all, unknown, code, label, variant⟩

/-- The kind a byte names. -/
def ofCode (byte : UInt8) : Kind := Coded.ofCode byte

@[simp] theorem ofCode_code (kind : Kind) : ofCode kind.code = kind := by cases kind <;> rfl

/-- No two kinds share a code. -/
theorem code_injective {k l : Kind} (h : k.code = l.code) : k = l := by
  rw [← ofCode_code k, h, ofCode_code]

/-- No two kinds share a label. -/
theorem label_injective {k l : Kind} (h : k.label = l.label) : k = l := by
  have hread : ∀ kind : Kind, Coded.ofLabel? kind.label = some kind := by
    intro kind
    cases kind <;> rfl
  rw [← Option.some_inj, ← hread k, h, hread]

/-- The kind named by the first byte, if there is one. -/
def peek? (buf : Bytes) : Option Kind := buf.head?.map ofCode

end Kind

end TopicWire
