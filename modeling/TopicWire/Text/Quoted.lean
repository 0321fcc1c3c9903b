import TopicWire.Text.Unprintable

/-!
# Quoted text

A quoted text stands between quotes on one line. The quote itself, the backslash, NUL, tab, line
feed and carriage return have short escapes, every other unprintable character is spelled by its
number in lower-case hexadecimal, and all else stands for itself.
-/

set_option autoImplicit false
set_option relaxedAutoImplicit false

namespace TopicWire.Text

/-- A character spelled by its number: a backslash, `u` and the hexadecimal digits in braces. -/
def numbered (c : Char) : List Char :=
  ['\\', 'u', '\x7b'] ++ Nat.toDigits 16 c.toNat ++ ['\x7d']

/-- The spelling of a character between quotes of the given form. -/
def escaped (quote c : Char) : List Char :=
  if c = '\x00' then ['\\', '0']
  else if c = '\t' then ['\\', 't']
  else if c = '\n' then ['\\', 'n']
  else if c = '\r' then ['\\', 'r']
  else if c = '\\' ∨ c = quote then ['\\', c]
  else if isUnprintable c then numbered c
  else [c]

/-- A text in double quotes. -/
def quoted (text : String) : String :=
  String.ofList (['"'] ++ text.toList.flatMap (escaped '"') ++ ['"'])

/-- A character in single quotes. -/
def quotedChar (c : Char) : String :=
  String.ofList (['\''] ++ escaped '\'' c ++ ['\''])

end TopicWire.Text
