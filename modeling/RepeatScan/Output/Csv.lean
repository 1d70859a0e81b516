import RepeatScan.Report

set_option autoImplicit false

/-! Reports as comma-separated values, one record for each occurrence. A field that holds a comma, a
quote or a line break stands in quotes, and each quote inside it is written twice. -/

namespace RepeatScan.Csv

/-- Characters that cannot stand in a field without quotes. -/
def isSpecial (character : Char) : Bool :=
  character == ',' || character == '"' || character == '\n' || character == '\r'

def doubled (character : Char) : Text :=
  if character = '"' then ['"', '"'] else [character]

def field (content : Text) : Text :=
  if content.any isSpecial then ['"'] ++ content.flatMap doubled ++ ['"'] else content

def record (fields : List Text) : Text :=
  [','].intercalate (fields.map field) ++ ['\n']

def header : List Text :=
  [ "fingerprint".toList, "path".toList, "start_token".toList, "end_token".toList,
    "start_line".toList, "end_line".toList, "token_count".toList ]

def occurrenceFields (fingerprint : Fingerprint) (occurrence : Occurrence) : List Text :=
  [ fingerprint.display, occurrence.source, Text.decimal occurrence.start,
    Text.decimal occurrence.stop, Text.decimal occurrence.lines.first,
    Text.decimal occurrence.lines.last, Text.decimal occurrence.tokenCount ]

/-- The records of a report in order, the names of the fields first. -/
def records (report : Report) : List (List Text) :=
  header :: report.groups.flatMap fun group =>
    group.occurrences.map (occurrenceFields group.fingerprint)

def ofReport (report : Report) : Text :=
  (records report).flatMap record

end RepeatScan.Csv
