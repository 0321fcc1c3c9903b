import TopicWire.Field
import TopicWire.Code.Kind
import TopicWire.Text.Hex
import TopicWire.Text.Structured

/-!
# Why bytes are no datagram

`ProtocolError` is the reason why bytes are refused or a datagram cannot be built. `isTruncation`
marks the reasons that more bytes may lift. A decoder that reaches beyond its input has a fault of
its own, which is no judgement on the bytes; `Fault` holds the two apart.
-/

set_option autoImplicit false
set_option relaxedAutoImplicit false

namespace TopicWire

/-- A reason to refuse bytes, or the parts of a datagram. -/
inductive ProtocolError where
  /-- There is no first byte. -/
  | empty
  /-- The input is shorter than the fixed part of its kind. -/
  | truncated (kind : Kind) (expected actual : Nat)
  /-- The size field declares more bytes than there are. -/
  | lengthMismatch (kind : Kind) (declared available : Nat)
  /-- The first byte names another kind than the one asked for. -/
  | unexpectedType (expected : Kind) (found : UInt8)
  /-- The kind has no layout. -/
  | unsupportedType (kind : Kind)
  /-- A run of ids is no whole number of ids long. -/
  | malformedIdSet (len : Nat)
  /-- An id occurs twice in a set. -/
  | duplicateId (id : UInt64)
  /-- A payload is longer than a size field can say. -/
  | payloadTooLarge (len max : Nat)
  deriving DecidableEq, Repr

namespace ProtocolError

/-- The name of a reason in structured text. -/
def variant : ProtocolError → String
  | empty => "Empty"
  | truncated .. => "Truncated"
  | lengthMismatch .. => "LengthMismatch"
  | unexpectedType .. => "UnexpectedType"
  | unsupportedType _ => "UnsupportedType"
  | malformedIdSet _ => "MalformedIdSet"
  | duplicateId _ => "DuplicateId"
  | payloadTooLarge .. => "PayloadTooLarge"

/-- A reason as structured text. -/
def structured (reason : ProtocolError) : String :=
  match reason with
  | empty => reason.variant
  | truncated kind expected actual =>
    Text.record reason.variant
      [("kind", kind.variant), ("expected", toString expected), ("actual", toString actual)]
  | lengthMismatch kind declared available =>
    Text.record reason.variant
      [("kind", kind.variant), ("declared", toString declared), ("available", toString available)]
  | unexpectedType expected found =>
    Text.record reason.variant
      [("expected", expected.variant), ("found", toString found.toNat)]
  | unsupportedType kind => Text.applied reason.variant kind.variant
  | malformedIdSet len => Text.record reason.variant [("len", toString len)]
  | duplicateId id => Text.applied reason.variant (toString id.toNat)
  | payloadTooLarge len max =>
    Text.record reason.variant [("len", toString len), ("max", toString max)]

/-- The report of a reason. -/
def message : ProtocolError → String
  | empty => "empty input: no datagram type tag"
  | truncated kind expected actual =>
    "truncated " ++ kind.label ++ ": expected at least " ++ toString expected ++ " bytes, got " ++
      toString actual
  | lengthMismatch kind declared available =>
    "length mismatch in " ++ kind.label ++ ": declared " ++ toString declared ++
      " payload bytes, " ++ toString available ++ " available"
  | unexpectedType expected found =>
    "unexpected datagram type: expected " ++ expected.label ++ ", found code " ++
      Text.Hex.marked found
  | unsupportedType kind => "unsupported datagram type: " ++ kind.label
  | malformedIdSet len =>
    "malformed identifier set: " ++ toString len ++ " bytes is not a whole number of ids"
  | duplicateId id => "duplicate identifier in set: " ++ toString id.toNat
  | payloadTooLarge len max =>
    "payload too large: " ++ toString len ++ " bytes exceeds maximum " ++ toString max

/-- Whether more bytes may turn the refusal into a datagram. -/
def isTruncation : ProtocolError → Bool
  | empty | truncated .. | lengthMismatch .. => true
  | _ => false

end ProtocolError

/-- Why a decoder stopped: it refused its input, or it read where there is none. -/
inductive Fault where
  | refused (reason : ProtocolError)
  | outOfBounds (access : OutOfBounds)
  deriving DecidableEq, Repr

namespace Fault

/-- The report of a fault. -/
def message : Fault → String
  | refused reason => reason.message
  | outOfBounds access => access.message

/-- A fault as structured text. -/
def structured : Fault → String
  | refused reason => reason.structured
  | outOfBounds access =>
    Text.record "OutOfBounds"
      [("width", toString access.width), ("position", toString access.position),
        ("length", toString access.length)]

/-- Whether more bytes may lift the fault. -/
def isTruncation : Fault → Bool
  | refused reason => reason.isTruncation
  | outOfBounds _ => false

end Fault

end TopicWire
