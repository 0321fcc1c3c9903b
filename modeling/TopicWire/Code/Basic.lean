import TopicWire.Bytes

/-!
# Closed sets of wire codes

A byte on the wire often names one member of a small closed set. `Coded` is the table of such a set:
its members with their bytes and printed names, and the member `unknown` that stands for every byte
no member claims. Reading a code is therefore total, and `unknown` has a byte of its own so that it
can be written again.
-/

set_option autoImplicit false
set_option relaxedAutoImplicit false

namespace TopicWire

/-- A closed set of wire codes. `members` lists the set in table order and `unknown` is the member
that unclaimed bytes are read as. `label` is the name in reports and `variant` the name in
structured text. -/
class Coded (α : Type) where
  members : List α
  unknown : α
  code : α → UInt8
  label : α → String
  variant : α → String

namespace Coded

variable {α : Type} [Coded α]

/-- The first member that claims a byte, or `unknown`. -/
def ofCode (byte : UInt8) : α :=
  (members.find? fun x : α ↦ code x == byte).getD unknown

/-- Whether a member is the one that stands for unclaimed bytes. -/
def isUnknown [DecidableEq α] (x : α) : Bool := x == unknown

/-- The first member with a given variant name. -/
def ofVariant? (name : String) : Option α := members.find? fun x : α ↦ variant x == name

/-- The first member with a given label. -/
def ofLabel? (name : String) : Option α := members.find? fun x : α ↦ label x == name

end Coded

end TopicWire
