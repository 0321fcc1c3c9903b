import TopicWire.Bytes
import TopicWire.Text.Quoted

/-!
# Bytes as hexadecimal text

`Hex.encode` writes two lower-case digits for each byte. `Hex.decode` reads digits of either case;
an odd number of digits is reported before any wrong digit, and of those the first one. `Hex.parse`
skips blanks first, so positions count the digits alone.
-/

set_option autoImplicit false
set_option relaxedAutoImplicit false

namespace TopicWire.Text.Hex

/-- The digit of a number below sixteen. -/
def digit (n : Nat) : Char := Char.ofNat (if n < 10 then 48 + n else 87 + n)

/-- The two digits of a byte. -/
def ofByte (b : UInt8) : List Char := [digit (b.toNat / 16), digit (b.toNat % 16)]

/-- A byte with the mark of a hexadecimal number in front. -/
def marked (b : UInt8) : String := String.ofList ('0' :: 'x' :: ofByte b)

/-- The digits of a byte string. -/
def encode (bs : Bytes) : String := String.ofList (bs.flatMap ofByte)

/-- The number of a digit, given as a byte of text. -/
def value? (b : UInt8) : Option UInt8 :=
  if 48 ≤ b ∧ b ≤ 57 then some (b - 48)
  else if 97 ≤ b ∧ b ≤ 102 then some (b - 87)
  else if 65 ≤ b ∧ b ≤ 70 then some (b - 55)
  else none

/-- Why a text spells no byte string. -/
inductive Error where
  | oddLength
  | invalidDigit (byte : UInt8) (position : Nat)
  deriving DecidableEq, Repr

/-- The report of a text that spells no byte string. A wrong byte is shown as the character of its
number. -/
def Error.message : Error → String
  | oddLength => "Odd number of digits"
  | invalidDigit byte position =>
    "Invalid character " ++ quotedChar (Char.ofNat byte.toNat) ++ " at position " ++
      toString position

/-- The bytes spelled by pairs of digits, the first of which has the given position. -/
def decodePairs (position : Nat) : Bytes → Except Error Bytes
  | [] => .ok []
  | [_] => .error .oddLength
  | high :: low :: text =>
    match value? high, value? low with
    | none, _ => .error (.invalidDigit high position)
    | some _, none => .error (.invalidDigit low (position + 1))
    | some h, some l => (decodePairs (position + 2) text).map fun bytes ↦ (16 * h + l) :: bytes

/-- The bytes spelled by a text of digits. -/
def decode (text : Bytes) : Except Error Bytes :=
  if text.length % 2 = 1 then .error .oddLength else decodePairs 0 text

/-- Whether a byte of text is a space, tab, line feed, form feed or carriage return. -/
def isBlank (b : UInt8) : Bool := b == 32 || b == 9 || b == 10 || b == 12 || b == 13

/-- The bytes spelled by a text of digits and blanks. -/
def parse (text : Bytes) : Except Error Bytes := decode (text.filter (!isBlank ·))

end TopicWire.Text.Hex
