/-!
# Byte strings and little-endian words

A wire form is a list of bytes. Every integer on the wire has a fixed width and is written least
significant byte first: `Bytes.ofNatLE` writes the low `width` bytes of a number and `Bytes.toNatLE`
reads a byte string back. The words of 16, 32 and 64 bits are instances of the two.
-/

set_option autoImplicit false
set_option relaxedAutoImplicit false

namespace TopicWire

/-- A run of bytes, in wire order. -/
abbrev Bytes := List UInt8

namespace Bytes

/-- The `width` low-order bytes of a number, least significant first. -/
def ofNatLE : Nat → Nat → Bytes
  | 0, _ => []
  | width + 1, value => UInt8.ofNat value :: ofNatLE width (value / 256)

/-- The number whose bytes, least significant first, are the given ones. -/
def toNatLE : Bytes → Nat
  | [] => 0
  | b :: bs => b.toNat + 256 * toNatLE bs

@[simp] theorem length_ofNatLE (width value : Nat) : (ofNatLE width value).length = width := by
  induction width generalizing value with
  | zero => rfl
  | succ width ih => simp [ofNatLE, ih]

/-- Writing inverts reading: a byte string is the little-endian form of its own number. -/
theorem ofNatLE_toNatLE (bs : Bytes) : ofNatLE bs.length (toNatLE bs) = bs := by
  induction bs with
  | nil => rfl
  | cons b bs ih =>
    have hb : b.toNat < 256 := b.toNat_lt
    have hlow : UInt8.ofNat (b.toNat + 256 * toNatLE bs) = b := by
      apply UInt8.toNat_inj.1
      simp
    have hhigh : (b.toNat + 256 * toNatLE bs) / 256 = toNatLE bs := by omega
    rw [toNatLE, List.length_cons, ofNatLE, hlow, hhigh, ih]

/-- The two bytes of a 16-bit word. -/
def ofUInt16 (value : UInt16) : Bytes := ofNatLE 2 value.toNat

/-- The four bytes of a 32-bit word. -/
def ofUInt32 (value : UInt32) : Bytes := ofNatLE 4 value.toNat

/-- The eight bytes of a 64-bit word. -/
def ofUInt64 (value : UInt64) : Bytes := ofNatLE 8 value.toNat

/-- The 16-bit word spelled by a byte string. -/
def toUInt16 (bs : Bytes) : UInt16 := UInt16.ofNat (toNatLE bs)

/-- The 32-bit word spelled by a byte string. -/
def toUInt32 (bs : Bytes) : UInt32 := UInt32.ofNat (toNatLE bs)

/-- The 64-bit word spelled by a byte string. -/
def toUInt64 (bs : Bytes) : UInt64 := UInt64.ofNat (toNatLE bs)

/-- A 16-bit word is read back from its bytes. -/
@[simp] theorem toUInt16_ofUInt16 (value : UInt16) : toUInt16 (ofUInt16 value) = value := by
  have hvalue : toNatLE (ofNatLE 2 value.toNat) = value.toNat := by
    have hbound := value.toNat_lt
    simp only [ofNatLE, toNatLE, UInt8.toNat_ofNat']
    omega
  rw [toUInt16, ofUInt16, hvalue, UInt16.ofNat_toNat]

/-- A 32-bit word is read back from its bytes. -/
@[simp] theorem toUInt32_ofUInt32 (value : UInt32) : toUInt32 (ofUInt32 value) = value := by
  have hvalue : toNatLE (ofNatLE 4 value.toNat) = value.toNat := by
    have hbound := value.toNat_lt
    simp only [ofNatLE, toNatLE, UInt8.toNat_ofNat']
    omega
  rw [toUInt32, ofUInt32, hvalue, UInt32.ofNat_toNat]

/-- A 64-bit word is read back from its bytes. -/
@[simp] theorem toUInt64_ofUInt64 (value : UInt64) : toUInt64 (ofUInt64 value) = value := by
  have hvalue : toNatLE (ofNatLE 8 value.toNat) = value.toNat := by
    have hbound := value.toNat_lt
    simp only [ofNatLE, toNatLE, UInt8.toNat_ofNat']
    omega
  rw [toUInt64, ofUInt64, hvalue, UInt64.ofNat_toNat]

end Bytes

end TopicWire
