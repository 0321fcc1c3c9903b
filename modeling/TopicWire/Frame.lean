import TopicWire.Error
import TopicWire.Flag
import TopicWire.Payload

/-!
# Frames

A datagram on the wire is a header of fixed length, which starts with the byte of its kind, and a
body whose length the header tells: nothing, as many bytes as a size field declares, or an id that a
flag bit announces. `Kind.layout?` is the table of these rules. `Frame.read` cuts one frame off the
front of a byte string and leaves the bytes after it alone, so no part of a later datagram is ever
looked at.
-/

set_option autoImplicit false
set_option relaxedAutoImplicit false

namespace TopicWire

/-- How a header tells the length of the body. -/
inductive Extent where
  /-- There is no body. -/
  | fixed
  /-- The 16-bit word at a position is the length of the body. -/
  | sized (position : Nat)
  /-- The body is an id if the flag at a position says that one is present, else there is none. -/
  | flagged (position : Nat)
  deriving DecidableEq, Repr

/-- The wire form of a kind of datagram: the length of its header and the rule for its body. -/
structure Layout where
  headerLength : Nat
  extent : Extent
  deriving DecidableEq, Repr

/-- The layout of a kind, unless it has none. -/
def Kind.layout? : Kind → Option Layout
  | connect => some ⟨1, .fixed⟩
  | connectAck => some ⟨11, .fixed⟩
  | connectNack => some ⟨3, .sized 1⟩
  | shutdown => some ⟨2, .fixed⟩
  | openStream => none
  | serverStatus => some ⟨1, .fixed⟩
  | serverStatusAck => some ⟨9, .fixed⟩
  | heartbeat => some ⟨1, .fixed⟩
  | heartbeatRequest => some ⟨1, .fixed⟩
  | ping => some ⟨2, .fixed⟩
  | pong => some ⟨2, .fixed⟩
  | topicRequest => some ⟨10, .fixed⟩
  | topicRequestAck => some ⟨10, .fixed⟩
  | topicRequestNack => some ⟨4, .sized 2⟩
  | objectRequest => some ⟨12, .sized 2⟩
  | objectRequestAck => some ⟨10, .flagged 1⟩
  | objectRequestNack => some ⟨12, .sized 2⟩
  | data => some ⟨15, .sized 1⟩
  | unknown => none

namespace Layout

/-- The length of the body that a header calls for. -/
def bodyLength (layout : Layout) (header : Bytes) : Except OutOfBounds Nat :=
  match layout.extent with
  | .fixed => .ok 0
  | .sized position => (Field.u16At header position).map UInt16.toNat
  | .flagged position =>
    (Field.u8At header position).map fun flag ↦ if Flag.has flag .finalIdPresent then 8 else 0

/-- The report of a body cut short: a size field is named with its own number, any other body
counts as part of the fixed form. -/
def shortage (layout : Layout) (kind : Kind) (declared available : Nat) : ProtocolError :=
  match layout.extent with
  | .sized _ => .lengthMismatch kind declared available
  | .fixed | .flagged _ =>
    .truncated kind (layout.headerLength + declared) (layout.headerLength + available)

end Layout

/-- The two parts of a datagram on the wire. -/
structure Frame where
  header : Bytes
  body : Bytes
  deriving DecidableEq, Repr

namespace Frame

/-- The number of bytes of a frame. -/
def length (frame : Frame) : Nat := frame.header.length + frame.body.length

/-- The frame at the front of a byte string. The header is checked first, then the body. -/
def read (kind : Kind) (layout : Layout) (buf : Bytes) : Except Fault Frame :=
  let header := buf.take layout.headerLength
  if header.length < layout.headerLength then
    .error (.refused (.truncated kind layout.headerLength buf.length))
  else
    match layout.bodyLength header with
    | .error access => .error (.outOfBounds access)
    | .ok declared =>
      let body := (buf.drop layout.headerLength).take declared
      if body.length < declared then
        .error (.refused (layout.shortage kind declared (buf.length - layout.headerLength)))
      else .ok ⟨header, body⟩

/-- The byte at a position of the header. -/
def u8At (frame : Frame) (position : Nat) : Except Fault UInt8 :=
  (Field.u8At frame.header position).mapError .outOfBounds

/-- The 16-bit word at a position of the header. -/
def u16At (frame : Frame) (position : Nat) : Except Fault UInt16 :=
  (Field.u16At frame.header position).mapError .outOfBounds

/-- The 32-bit word at a position of the header. -/
def u32At (frame : Frame) (position : Nat) : Except Fault UInt32 :=
  (Field.u32At frame.header position).mapError .outOfBounds

/-- The 64-bit word at a position of the header. -/
def u64At (frame : Frame) (position : Nat) : Except Fault UInt64 :=
  (Field.u64At frame.header position).mapError .outOfBounds

/-- The body as a payload. -/
def payload (frame : Frame) : Except Fault Payload :=
  (Payload.ofBytes frame.body).mapError .refused

/-- The body as an id. -/
def bodyId (frame : Frame) : Except Fault UInt64 :=
  (Field.u64At frame.body 0).mapError .outOfBounds

end Frame

end TopicWire
