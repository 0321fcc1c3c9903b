import TopicWire.Bytes
import TopicWire.Text.Structured

/-!
# Growable buffers

Encoders append to a buffer. Beside its content a buffer has a capacity, the number of bytes it
holds before it has to grow; how far it grows is a `Growth`, of which only the lower bound matters.
An encoder is a list of `Write` steps, so what it appends and when it makes room can both be read
off. Each operation is described by what it does to `Buffer.bytes` (`bytes_append`,
`bytes_writeAll`).
-/

set_option autoImplicit false
set_option relaxedAutoImplicit false

namespace TopicWire

/-- How a buffer grows: from its capacity and the room needed to a new capacity that suffices. -/
structure Growth where
  next : Nat → Nat → Nat
  needed_le : ∀ capacity needed, needed ≤ next capacity needed

/-- Growth to twice the capacity, or to the room needed if that is more. -/
def Growth.doubling : Growth :=
  ⟨fun capacity needed ↦ max (2 * capacity) needed, fun _ _ ↦ Nat.le_max_right ..⟩

/-- One step of an encoder. -/
inductive Write where
  /-- Make room for `extra` more bytes. -/
  | reserve (extra : Nat)
  /-- Append bytes. -/
  | append (bytes : Bytes)
  deriving DecidableEq, Repr

namespace Write

/-- Append one byte. -/
def u8 (value : UInt8) : Write := append [value]

/-- Append a 16-bit word. -/
def u16 (value : UInt16) : Write := append (Bytes.ofUInt16 value)

/-- Append a 32-bit word. -/
def u32 (value : UInt32) : Write := append (Bytes.ofUInt32 value)

/-- Append a 64-bit word. -/
def u64 (value : UInt64) : Write := append (Bytes.ofUInt64 value)

/-- The bytes a step appends. -/
def bytes : Write → Bytes
  | reserve _ => []
  | append bs => bs

/-- The bytes a list of steps appends. -/
def bytesOf (steps : List Write) : Bytes := steps.flatMap bytes

end Write

/-- A byte buffer with room for `capacity` bytes. -/
structure Buffer where
  content : Array UInt8
  capacity : Nat

namespace Buffer

/-- A buffer without content or room. -/
def empty : Buffer := ⟨#[], 0⟩

/-- A buffer without content, with room for `capacity` bytes. -/
def withCapacity (capacity : Nat) : Buffer := ⟨#[], capacity⟩

/-- The content, in order. -/
def bytes (b : Buffer) : Bytes := b.content.toList

/-- The number of bytes held. -/
def length (b : Buffer) : Nat := b.content.size

/-- Makes room for `extra` more bytes. A buffer never shrinks. -/
def reserve (growth : Growth) (b : Buffer) (extra : Nat) : Buffer :=
  if b.length + extra ≤ b.capacity then b
  else { b with capacity := growth.next b.capacity (b.length + extra) }

/-- Appends bytes, after making room for them. -/
def append (growth : Growth) (b : Buffer) (bs : Bytes) : Buffer :=
  let roomy := b.reserve growth bs.length
  { roomy with content := roomy.content ++ bs }

/-- Runs one step of an encoder. -/
def write (growth : Growth) (b : Buffer) : Write → Buffer
  | .reserve extra => b.reserve growth extra
  | .append bs => b.append growth bs

/-- Runs the steps of an encoder in order. -/
def writeAll (growth : Growth) (b : Buffer) (steps : List Write) : Buffer :=
  steps.foldl (write growth) b

/-- A buffer as structured text. -/
def structured (b : Buffer) : String :=
  Text.record "DatagramBuffer" [("len", toString b.length), ("capacity", toString b.capacity)]

@[simp] theorem length_bytes (b : Buffer) : b.bytes.length = b.length := rfl

@[simp] theorem bytes_reserve (growth : Growth) (b : Buffer) (extra : Nat) :
    (b.reserve growth extra).bytes = b.bytes := by
  unfold reserve
  split <;> rfl

@[simp] theorem bytes_append (growth : Growth) (b : Buffer) (bs : Bytes) :
    (b.append growth bs).bytes = b.bytes ++ bs := by
  have h : (b.append growth bs).bytes = ((b.reserve growth bs.length).content ++ bs).toList := rfl
  rw [h, Array.toList_appendList]
  exact congrArg (· ++ bs) (bytes_reserve growth b bs.length)

/-- A step appends its bytes, whatever the content before. -/
theorem bytes_write (growth : Growth) (b : Buffer) (step : Write) :
    (b.write growth step).bytes = b.bytes ++ step.bytes := by
  cases step with
  | reserve extra => simp [write, Write.bytes]
  | append bs => simp [write, Write.bytes]

/-- The steps of an encoder append their bytes in order. -/
theorem bytes_writeAll (growth : Growth) (b : Buffer) (steps : List Write) :
    (b.writeAll growth steps).bytes = b.bytes ++ Write.bytesOf steps := by
  induction steps generalizing b with
  | nil => simp [writeAll, Write.bytesOf]
  | cons step steps ih =>
    have hcons : b.writeAll growth (step :: steps) = (b.write growth step).writeAll growth steps :=
      rfl
    rw [hcons, ih, bytes_write, List.append_assoc]
    rfl

end Buffer

end TopicWire
