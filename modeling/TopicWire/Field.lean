import TopicWire.Bytes

/-!
# Reading fields at a position

A field lies at a fixed offset of a byte string. Each reader checks its bounds in unbounded
arithmetic and reports the access that does not fit as an `OutOfBounds`, with the width, the
position and the length of the string. A decoder that checks lengths first never sees one.
-/

set_option autoImplicit false
set_option relaxedAutoImplicit false

namespace TopicWire

/-- An access of `width` bytes at `position` that a string of `length` bytes does not hold. -/
structure OutOfBounds where
  width : Nat
  position : Nat
  length : Nat
  deriving DecidableEq, Repr

/-- The report of an access out of bounds. -/
def OutOfBounds.message (access : OutOfBounds) : String :=
  "field access out of bounds: " ++ toString access.width ++ " bytes at offset " ++
    toString access.position ++ " in a " ++ toString access.length ++ "-byte slice"

namespace Field

/-- The `width` bytes at `position`. -/
def bytesAt (width : Nat) (buf : Bytes) (position : Nat) : Except OutOfBounds Bytes :=
  if position + width ≤ buf.length then .ok ((buf.drop position).take width)
  else .error ⟨width, position, buf.length⟩

/-- The byte at `position`. -/
def u8At (buf : Bytes) (position : Nat) : Except OutOfBounds UInt8 :=
  match buf[position]? with
  | some b => .ok b
  | none => .error ⟨1, position, buf.length⟩

/-- The little-endian 16-bit word at `position`. -/
def u16At (buf : Bytes) (position : Nat) : Except OutOfBounds UInt16 :=
  (bytesAt 2 buf position).map Bytes.toUInt16

/-- The little-endian 32-bit word at `position`. -/
def u32At (buf : Bytes) (position : Nat) : Except OutOfBounds UInt32 :=
  (bytesAt 4 buf position).map Bytes.toUInt32

/-- The little-endian 64-bit word at `position`. -/
def u64At (buf : Bytes) (position : Nat) : Except OutOfBounds UInt64 :=
  (bytesAt 8 buf position).map Bytes.toUInt64

/-- The bytes from `start` up to but not including `stop`. A reversed range is out of bounds, with
width zero. -/
def subrange (buf : Bytes) (start stop : Nat) : Except OutOfBounds Bytes :=
  if start ≤ stop ∧ stop ≤ buf.length then .ok ((buf.drop start).take (stop - start))
  else .error ⟨stop - start, start, buf.length⟩

end Field

end TopicWire
