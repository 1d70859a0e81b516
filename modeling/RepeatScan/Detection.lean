import RepeatScan.Bucket.Schedule
import RepeatScan.Fingerprint.Rolling
import RepeatScan.Grouping
import RepeatScan.Settings.Basic
import RepeatScan.Source

set_option autoImplicit false

/-! A run: the sources are masked and fingerprinted, their windows collected, and what repeats is
reported. A source that cannot be read is left out and does not disturb the others. -/

namespace RepeatScan

/-- Why a run gives no report. -/
inductive RunError where
  | invalidSettings (error : SettingsError)
  | cancelled
  | noWorkers (wording : Text)
  deriving DecidableEq, Repr

def RunError.message : RunError → Text
  | .invalidSettings error => "Invalid configuration: ".toList ++ error.message
  | .cancelled => "Template detection cancelled".toList
  | .noWorkers wording => "Worker pool error: ".toList ++ wording

def RunError.isAboutSettings : RunError → Bool
  | .invalidSettings _ => true
  | _ => false

/-- What a run counts. -/
structure Statistics where
  sourcesGiven : Nat
  sourcesAnalyzed : Nat
  sourcesSkipped : Nat
  totalTokens : Nat
  totalWindows : Nat
  distinctFingerprints : Nat
  groupsReported : Nat
  workers : Nat
  elapsedMilliseconds : Nat
  deriving DecidableEq, Repr

def Statistics.zero : Statistics := ⟨0, 0, 0, 0, 0, 0, 0, 0, 0⟩

/-- What a run gives. -/
structure Outcome where
  report : Report
  diagnostics : List Diagnostic
  statistics : Statistics
  deriving DecidableEq, Repr

namespace Detection

/-- What a run finds outside: files, and the workers that all runs share. -/
structure Surroundings where
  files : FileTree
  sharedWorkers : Nat

/-- The tokens and windows of a source that can be read. -/
def scan (files : FileTree) (mask : Mask) (size : Nat) (source : Source) (index : Nat) :
    Except Diagnostic ScannedSource :=
  match source.origin.load files with
  | .error error => .error ⟨source.id, error⟩
  | .ok text =>
      let tokens := mask.tokenStream text
      .ok ⟨index, source.id, tokens, Fingerprint.windows size tokens.tokens⟩

def scanAll (files : FileTree) (mask : Mask) (size : Nat) (sources : List Source) :
    List (Except Diagnostic ScannedSource) :=
  sources.zipIdx.map fun entry => scan files mask size entry.1 entry.2

def scanned (outcomes : List (Except Diagnostic ScannedSource)) : List ScannedSource :=
  outcomes.filterMap fun
    | .ok source => some source
    | .error _ => none

def diagnostics (outcomes : List (Except Diagnostic ScannedSource)) : List Diagnostic :=
  outcomes.filterMap fun
    | .ok _ => none
    | .error diagnostic => some diagnostic

/-- What each worker does for its source while windows stream in. -/
def workers (size : Nat) (sources : List ScannedSource) : List (List Tally.Step) :=
  sources.map fun source => Tally.stepsOf size source.index source.windows

/-- The tally of all windows: source by source, or by workers that take turns. -/
def tally (settings : Settings) (sources : List ScannedSource) : Tally :=
  if settings.streaming then
    Tally.empty.run (Schedule.roundRobin (workers settings.windowSize sources))
  else Grouping.tally settings.windowSize sources

def groupingOptions (settings : Settings) : GroupingOptions :=
  ⟨settings.minOccurrences, settings.mergeOverlaps, settings.verifyContent⟩

/-- What a run gives, from what came of each source and the tally of all windows. -/
def conclude (surroundings : Surroundings) (settings : Settings)
    (outcomes : List (Except Diagnostic ScannedSource)) (collected : Tally) : Outcome :=
  let found := scanned outcomes
  let skipped := diagnostics outcomes
  let buckets := collected.buckets
  let report := Grouping.report found (groupingOptions settings) buckets
  { report := report
    diagnostics := skipped
    statistics :=
      { sourcesGiven := outcomes.length
        sourcesAnalyzed := found.length
        sourcesSkipped := skipped.length
        totalTokens := found.foldr (fun source total => source.tokens.length + total) 0
        totalWindows := collected.counted
        distinctFingerprints := buckets.length
        groupsReported := report.groups.length
        workers := settings.maxWorkers.getD surroundings.sharedWorkers
        elapsedMilliseconds := 0 } }

/-- The part of a run behind the checks. A run that is cancelled gives nothing. -/
def pass [Platform] (collect : Settings → List ScannedSource → Tally) (surroundings : Surroundings)
    (settings : CheckedSettings) (sources : List Source) (cancelled : Bool) :
    Except RunError Outcome := do
  if cancelled then throw .cancelled
  let outcomes := scanAll surroundings.files settings.mask settings.windowSize sources
  return conclude surroundings settings outcomes (collect settings (scanned outcomes))

/-- A run over some sources whose windows are collected in the given way. Settings are checked
first. -/
def runBy [Platform] (collect : Settings → List ScannedSource → Tally)
    (surroundings : Surroundings) (settings : Settings) (sources : List Source)
    (cancelled : Bool) : Except RunError Outcome := do
  let checked ← settings.prepare.mapError .invalidSettings
  pass collect surroundings checked sources cancelled

/-- A run over some sources, with the workers that it asks for. -/
def run [Platform] (surroundings : Surroundings) (settings : Settings) (sources : List Source)
    (cancelled : Bool) : Except RunError Outcome :=
  runBy tally surroundings settings sources cancelled

/-- The workers that a run asks for beside the shared ones must start. -/
def hire [Platform] (settings : Settings) : Except RunError Unit :=
  match settings.maxWorkers.bind Platform.workersRefused? with
  | some wording => .error (.noWorkers wording)
  | none => .ok ()

/-- A run that has to find its workers first, once its settings are checked. -/
def runHired [Platform] (surroundings : Surroundings) (settings : Settings)
    (sources : List Source) (cancelled : Bool) : Except RunError Outcome := do
  let checked ← settings.prepare.mapError .invalidSettings
  hire settings
  pass tally surroundings checked sources cancelled

end Detection

end RepeatScan
