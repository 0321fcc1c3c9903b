import TopicWire.Bytes

/-!
# Text as bytes

`Utf8.encode` is the UTF-8 form of a text. `Utf8.pieces` splits any byte string into scalar values
and ill-formed parts: a part is the longest prefix of a scalar's form that the bytes still agree
with, and at least one byte. `Utf8.decodeLossy` reads a byte string as text with one U+FFFD for each
ill-formed part.
-/

set_option autoImplicit false
set_option relaxedAutoImplicit false

namespace TopicWire.Text.Utf8

/-- The UTF-8 bytes of a text. -/
def encode (text : String) : Bytes := text.toList.flatMap String.utf8EncodeChar

/-- What the first byte of a form says: the bits it carries, how many bytes follow, and the closed
range of the next one, which rules out overlong forms, surrogates and numbers above U+10FFFF. -/
structure Lead where
  bits : Nat
  following : Nat
  low : UInt8
  high : UInt8

/-- The reading of a first byte, unless no form starts with it. -/
def Lead.ofByte? (b : UInt8) : Option Lead :=
  if b < 0x80 then some ⟨b.toNat, 0, 0x80, 0xBF⟩
  else if b < 0xC2 then none
  else if b < 0xE0 then some ⟨b.toNat - 0xC0, 1, 0x80, 0xBF⟩
  else if b < 0xF0 then
    some ⟨b.toNat - 0xE0, 2, if b = 0xE0 then 0xA0 else 0x80, if b = 0xED then 0x9F else 0xBF⟩
  else if b < 0xF5 then
    some ⟨b.toNat - 0xF0, 3, if b = 0xF0 then 0x90 else 0x80, if b = 0xF4 then 0x8F else 0xBF⟩
  else none

/-- Reads `following` more bytes of a form, the next one within a closed range, onto the bits read
so far. Answers the number and the bytes after the form, or nothing and the bytes from the first
that does not fit. -/
def continuation : Nat → Nat → UInt8 → UInt8 → Bytes → Option Nat × Bytes
  | 0, bits, _, _, bs => (some bits, bs)
  | _ + 1, _, _, _, [] => (none, [])
  | following + 1, bits, low, high, b :: bs =>
    if low ≤ b ∧ b ≤ high then
      continuation following (bits * 64 + (b.toNat - 0x80)) 0x80 0xBF bs
    else (none, b :: bs)

/-- The front of a byte string with the given first byte: its scalar value, or nothing for an
ill-formed part, and the bytes after it. -/
def front (b : UInt8) (bs : Bytes) : Option Char × Bytes :=
  match Lead.ofByte? b with
  | none => (none, bs)
  | some lead =>
    let (number?, rest) := continuation lead.following lead.bits lead.low lead.high bs
    (number?.map Char.ofNat, rest)

theorem length_continuation_le (following bits : Nat) (low high : UInt8) (bs : Bytes) :
    (continuation following bits low high bs).2.length ≤ bs.length := by
  induction following generalizing bits low high bs with
  | zero => simp [continuation]
  | succ following ih =>
    cases bs with
    | nil => simp [continuation]
    | cons b bs =>
      rw [continuation]
      split
      · exact Nat.le_succ_of_le (ih _ _ _ bs)
      · exact Nat.le_refl _

theorem length_front_le (b : UInt8) (bs : Bytes) : (front b bs).2.length ≤ bs.length := by
  unfold front
  split
  · exact Nat.le_refl _
  · exact length_continuation_le ..

/-- The scalar values of a byte string in order, with nothing in place of each ill-formed part. -/
def pieces : Bytes → List (Option Char)
  | [] => []
  | b :: bs => (front b bs).1 :: pieces (front b bs).2
  termination_by bs => bs.length
  decreasing_by exact Nat.lt_succ_of_le (length_front_le b bs)

/-- A byte string as text, with U+FFFD for each ill-formed part. -/
def decodeLossy (bs : Bytes) : String :=
  String.ofList ((pieces bs).map fun piece ↦ piece.getD '\uFFFD')

end TopicWire.Text.Utf8
