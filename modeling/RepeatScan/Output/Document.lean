import RepeatScan.Json.Statistics

set_option autoImplicit false

/-! The whole outcome of a run as one JSON document: the report, the diagnostics and the
statistics. -/

namespace RepeatScan.Json

def ofDiagnostic (diagnostic : Diagnostic) : Value :=
  .object
    [ ("source".toList, .string diagnostic.source),
      ("message".toList, .string diagnostic.error.message) ]

def ofOutcome (outcome : Outcome) : Value :=
  .object
    [ ("report".toList, ofReport outcome.report),
      ("diagnostics".toList, .array (outcome.diagnostics.map ofDiagnostic)),
      ("stats".toList, ofStatistics outcome.statistics) ]

def document (outcome : Outcome) : Text :=
  (ofOutcome outcome).pretty ++ ['\n']

end RepeatScan.Json
