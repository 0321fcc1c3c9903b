import TopicWire.Text.Structured

/-!
# Sequence numbers

Data on a topic is numbered by 32-bit words that wrap around. `Sequence.classify` compares a number
with the last one seen by their distance on the circle: one step is in order, up to half the circle
is ahead with the numbers between missing, and all else is behind.
-/

set_option autoImplicit false
set_option relaxedAutoImplicit false

namespace TopicWire.Sequence

/-- Where a sequence number lies relative to the last one seen. -/
inductive Order where
  /-- The next number. -/
  | inOrder
  /-- Ahead of the next number by the count of missing ones. -/
  | gap (missing : UInt32)
  /-- The same number again. -/
  | duplicate
  /-- Behind the last number. -/
  | reordered
  deriving DecidableEq, Repr

/-- The place of `incoming` relative to `lastSeen`. -/
def classify (lastSeen incoming : UInt32) : Order :=
  let distance := incoming - lastSeen
  if distance = 0 then .duplicate
  else if distance = 1 then .inOrder
  else if distance ≤ 0x7FFFFFFF then .gap (distance - 1)
  else .reordered

/-- An order as structured text. -/
def Order.structured : Order → String
  | inOrder => "InOrder"
  | gap missing => Text.record "Gap" [("missing", toString missing.toNat)]
  | duplicate => "Duplicate"
  | reordered => "Reordered"

end TopicWire.Sequence
