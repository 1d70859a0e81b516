import RepeatScan.File.Tree
import RepeatScan.Report
import RepeatScan.Text.Lines

set_option autoImplicit false

/-! Snippets: the lines of a file that an occurrence stands on. Lines are joined by the line ending of
the file, which has a carriage return if any line ending of the file has one. -/

namespace RepeatScan.Snippet

/-- Whether some newline of a text follows a carriage return. -/
def hasReturnBreak : Text → Bool
  | [] => false
  | '\r' :: '\n' :: _ => true
  | _ :: rest => hasReturnBreak rest

def lineEnding (text : Text) : Text :=
  if hasReturnBreak text then ['\r', '\n'] else ['\n']

/-- The lines of a text between its newlines, each without a carriage return at its end. -/
def lines (text : Text) : List Text :=
  (Text.pieces '\n' text).map Text.dropReturn

/-- The lines of a text in a range of line numbers, if there are any. -/
def ofText (range : LineRange) (text : Text) : Option Text :=
  let lines := lines text
  let first := max range.first 1
  let last := min range.last lines.length
  if first ≤ last then
    some ((lineEnding text).intercalate ((lines.take last).drop (first - 1)))
  else none

def ofOccurrence (files : FileTree) (occurrence : Occurrence) : Option Text :=
  (files.readText occurrence.source).toOption.bind (ofText occurrence.lines)

end RepeatScan.Snippet
