import RepeatScan.Json.Value
import RepeatScan.Output.Snippet

set_option autoImplicit false

/-! Pairs of occurrences, one pair in a line. A reader of these lines cuts them at commas outside
quotes and takes a quote behind a backslash for text, so sources that would be misread are left
out, and a snippet never ends in a backslash right before its closing quote. -/

namespace RepeatScan.Pairs

/-- A text that reads back as it stands: without commas, quotes, backslashes and line breaks. -/
def isPlain (text : Text) : Bool :=
  !text.any fun character =>
    character == ',' || character == '"' || character == '\\' || character == '\n' ||
      character == '\r'

/-- The last character of a text inside a literal; a backslash is written by its code point. -/
def lastEscape (character : Char) : Text :=
  if character = '\\' then "\\u005c".toList else Json.escape character

/-- The characters of a literal between its quotes. -/
def literalBody : Text → Text
  | [] => []
  | [character] => lastEscape character
  | character :: rest => Json.escape character ++ literalBody rest

/-- A text as a JSON string in which no backslash stands before the closing quote. -/
def literal (text : Text) : Text :=
  ['"'] ++ literalBody text ++ ['"']

def header (withText : Bool) : List Text :=
  [ "path1".toList, "path2".toList, "start_line1".toList, "end_line1".toList,
    "token_count1".toList, "start_line2".toList, "end_line2".toList, "token_count2".toList ] ++
    if withText then ["text".toList] else []

def pairFields (left right : Occurrence) : List Text :=
  [ left.source, right.source, Text.decimal left.lines.first, Text.decimal left.lines.last,
    Text.decimal left.tokenCount, Text.decimal right.lines.first, Text.decimal right.lines.last,
    Text.decimal right.tokenCount ]

def pairsOf {α : Type} : List α → List (α × α)
  | [] => []
  | earlier :: later => later.map (fun other => (earlier, other)) ++ pairsOf later

/-- The snippet of the first occurrence as a field; without a snippet the field is empty. -/
def snippetField (snippet : Occurrence → Option Text) (occurrences : List Occurrence) : Text :=
  (occurrences.head?.bind snippet).elim [] literal

/-- The rows of a group; none if one of its sources cannot be read back. -/
def rows (snippet? : Option (Occurrence → Option Text)) (group : Group) : List (List Text) :=
  if group.occurrences.all fun occurrence => isPlain occurrence.source then
    let extra := snippet?.toList.map fun snippet => snippetField snippet group.occurrences
    (pairsOf group.occurrences).map fun pair => pairFields pair.1 pair.2 ++ extra
  else []

/-- Fields with commas between them, and the line ending. -/
def line (fields : List Text) : Text :=
  [','].intercalate fields ++ ['\n']

/-- The pairs of a report, with a snippet for each if there is a way to get one. -/
def ofReport (snippet? : Option (Occurrence → Option Text)) (report : Report) : Text :=
  (header snippet?.isSome :: report.groups.flatMap (rows snippet?)).flatMap line

end RepeatScan.Pairs
