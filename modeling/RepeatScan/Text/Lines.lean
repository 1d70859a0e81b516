import RepeatScan.Text.Pieces

set_option autoImplicit false

/-! Lines of a text. A newline ends a line, and a carriage return right before it belongs to the line
ending and not to the line. -/

namespace RepeatScan.Text

/-- A line without the carriage return that ends it. -/
def dropReturn (line : Text) : Text :=
  if line.getLast? = some '\r' then line.dropLast else line

/-- The lines of a text: the ending of a line is not part of it, and nothing follows a final
newline. -/
def lines (text : Text) : List Text :=
  let parts := pieces '\n' text
  let last := parts.getLastD []
  parts.dropLast.map dropReturn ++ if last.isEmpty then [] else [last]

end RepeatScan.Text
