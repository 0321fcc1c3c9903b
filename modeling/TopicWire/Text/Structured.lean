/-!
# Structured text

Values are shown by name and content: a record with its fields in braces, a constructor with its
argument in parentheses, sequences in brackets and sets in braces.
-/

set_option autoImplicit false
set_option relaxedAutoImplicit false

namespace TopicWire.Text

/-- Items with a comma and a space between them. -/
def listed (items : List String) : String := ", ".intercalate items

/-- A record: its name and, in braces, its fields in order. -/
def record (name : String) (fields : List (String × String)) : String :=
  name ++ " \x7b " ++ listed (fields.map fun (field, value) ↦ field ++ ": " ++ value) ++ " \x7d"

/-- A constructor and its argument. -/
def applied (name argument : String) : String := name ++ "(" ++ argument ++ ")"

/-- A sequence in brackets. -/
def bracketed (items : List String) : String := "[" ++ listed items ++ "]"

/-- A set in braces. -/
def braced (items : List String) : String := "\x7b" ++ listed items ++ "\x7d"

/-- A value that may be absent. -/
def optional : Option String → String
  | none => "None"
  | some value => applied "Some" value

end TopicWire.Text
