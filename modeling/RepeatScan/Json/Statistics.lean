import RepeatScan.Detection
import RepeatScan.Json.Report

set_option autoImplicit false

/-! The statistics of a run as JSON. -/

namespace RepeatScan.Json

def ofStatistics (statistics : Statistics) : Value :=
  .object
    [ ("sourcesGiven".toList, .number statistics.sourcesGiven),
      ("sourcesAnalyzed".toList, .number statistics.sourcesAnalyzed),
      ("sourcesSkipped".toList, .number statistics.sourcesSkipped),
      ("totalTokens".toList, .number statistics.totalTokens),
      ("totalWindows".toList, .number statistics.totalWindows),
      ("distinctFingerprints".toList, .number statistics.distinctFingerprints),
      ("templatesReported".toList, .number statistics.groupsReported),
      ("workers".toList, .number statistics.workers),
      ("executionTimeMs".toList, .number statistics.elapsedMilliseconds) ]

def countField (name : String) (set : Statistics → Nat → Statistics) : Field Statistics :=
  ⟨name.toList, fun node statistics => do return set statistics (← node.readNat UInt64.size)⟩

def Node.readStatistics : Node → Except ReadError Statistics :=
  readRecord complete
    [ countField "sourcesGiven" fun statistics count => { statistics with sourcesGiven := count },
      countField "sourcesAnalyzed" fun statistics count =>
        { statistics with sourcesAnalyzed := count },
      countField "sourcesSkipped" fun statistics count =>
        { statistics with sourcesSkipped := count },
      countField "totalTokens" fun statistics count => { statistics with totalTokens := count },
      countField "totalWindows" fun statistics count => { statistics with totalWindows := count },
      countField "distinctFingerprints" fun statistics count =>
        { statistics with distinctFingerprints := count },
      countField "templatesReported" fun statistics count =>
        { statistics with groupsReported := count },
      countField "workers" fun statistics count => { statistics with workers := count },
      countField "executionTimeMs" fun statistics count =>
        { statistics with elapsedMilliseconds := count } ]
    .zero

end RepeatScan.Json
