/-!
# Columns

The cells of a column are filled with blanks up to its width. A cell that is wider stands as it is.
-/

set_option autoImplicit false
set_option relaxedAutoImplicit false

namespace TopicWire.Text

/-- Blanks that fill a cell up to a width. -/
def filler (width : Nat) (cell : String) : String :=
  String.ofList (List.replicate (width - cell.length) ' ')

/-- A cell set flush left. -/
def flushLeft (width : Nat) (cell : String) : String := cell ++ filler width cell

/-- A cell set flush right. -/
def flushRight (width : Nat) (cell : String) : String := filler width cell ++ cell

end TopicWire.Text
