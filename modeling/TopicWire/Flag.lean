/-!
# The flag byte of an acknowledgement

The low five bits of a flag say which actions it acknowledges, bit 6 that they failed, and bit 7
that a final object id follows on the wire.
-/

set_option autoImplicit false
set_option relaxedAutoImplicit false

namespace TopicWire

/-- The bits of an acknowledgement. -/
abbrev Flag := UInt8

namespace Flag

/-- The object was created. -/
def create : Flag := 0x01

/-- The object was updated. -/
def update : Flag := 0x02

/-- The object was deleted. -/
def delete : Flag := 0x04

/-- The object was subscribed to topics. -/
def subscribe : Flag := 0x08

/-- The object was unsubscribed from topics. -/
def unsubscribe : Flag := 0x10

/-- The operation failed. -/
def failed : Flag := 0x40

/-- A final object id follows. The codec sets and clears this bit. -/
def finalIdPresent : Flag := 0x80

/-- All the bits that name an action. -/
def actions : Flag := create ||| update ||| delete ||| subscribe ||| unsubscribe

/-- Whether every one of `bits` is set. -/
def has (flag bits : Flag) : Bool := flag &&& bits == bits

end Flag

end TopicWire
