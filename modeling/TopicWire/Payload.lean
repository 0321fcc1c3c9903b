import TopicWire.Error
import TopicWire.Text.Utf8

/-!
# Payloads

A payload is a byte string whose length fits in the 16-bit size field of its datagram. The only ways
to make one from bytes or from text check the limit, so the size field is exact whenever it is
written.
-/

set_option autoImplicit false
set_option relaxedAutoImplicit false

namespace TopicWire

/-- The longest payload a size field can declare. -/
def maxPayloadLength : Nat := 65535

/-- A byte string that a size field can declare. -/
structure Payload where
  bytes : Bytes
  length_le : bytes.length ≤ maxPayloadLength
  deriving DecidableEq

namespace Payload

/-- A byte string as a payload, if it is short enough. -/
def ofBytes (bs : Bytes) : Except ProtocolError Payload :=
  if h : bs.length ≤ maxPayloadLength then .ok ⟨bs, h⟩
  else .error (.payloadTooLarge bs.length maxPayloadLength)

/-- The UTF-8 form of a text as a payload, if it is short enough. -/
def ofText (text : String) : Except ProtocolError Payload := ofBytes (Text.Utf8.encode text)

/-- The number of bytes. -/
def length (p : Payload) : Nat := p.bytes.length

/-- The size field of a payload. -/
def size (p : Payload) : UInt16 := UInt16.ofNat p.length

/-- A payload read as text, with U+FFFD for each ill-formed part. -/
def text (p : Payload) : String := Text.Utf8.decodeLossy p.bytes

/-- The size field is the length: no payload is too long for it. -/
@[simp] theorem toNat_size (p : Payload) : p.size.toNat = p.length := by
  have h : p.length ≤ 65535 := p.length_le
  simp only [size, UInt16.toNat_ofNat']
  omega

end Payload

end TopicWire
