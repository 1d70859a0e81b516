import RepeatScan.CommandLine.Arguments
import RepeatScan.Output.Csv
import RepeatScan.Output.Document
import RepeatScan.Output.Pairs
import RepeatScan.Output.Summary
import RepeatScan.Yaml.Settings

set_option autoImplicit false

/-! What the program does with its arguments, given the files that it finds. The settings come from a
file or a preset, and the arguments go before both; a source that cannot be read is only warned
about. -/

namespace RepeatScan.CommandLine

/-- How the program ends: its exit code, what it writes, and what it says about errors. -/
structure Ending where
  exitCode : Nat
  output : Text
  complaints : List Text
  deriving DecidableEq, Repr

namespace Arguments

/-- The settings before other arguments are looked at. -/
def baseSettings (files : FileTree) (arguments : Arguments) : Except SettingsError Settings :=
  match arguments.config, arguments.preset with
  | some path, _ => do Yaml.readSettings (← (files.readText path).mapError .unreadable)
  | none, some name => do return .ofPreset (← Preset.ofName name)
  | none, none => .ok .standard

/-- The settings with what the arguments say about single fields. -/
def override (arguments : Arguments) (settings : Settings) : Settings :=
  { settings with
    windowSize := arguments.window.getD settings.windowSize
    minOccurrences := arguments.minimum.getD settings.minOccurrences
    mergeOverlaps := settings.mergeOverlaps && !arguments.noMerge
    streaming := settings.streaming || arguments.streaming
    maxWorkers := arguments.jobs.or settings.maxWorkers }

def settings (files : FileTree) (arguments : Arguments) : Except SettingsError Settings := do
  (arguments.override (← arguments.baseSettings files)).check

def sources (files : FileTree) (arguments : Arguments) : List Source :=
  (files.collect arguments.extensions arguments.paths).map .ofPath

def output (files : FileTree) (arguments : Arguments) (outcome : Outcome) : Text :=
  match arguments.format.getD .text with
  | .text => Summary.ofReport outcome.report
  | .json => Json.document outcome
  | .csv => Csv.ofReport outcome.report
  | .pairs =>
      let snippet? := if arguments.includeText then some (Snippet.ofOccurrence files) else none
      Pairs.ofReport snippet? outcome.report

end Arguments

namespace Ending

/-- The end of a program that cannot use its settings. -/
def ofSettingsError (error : SettingsError) : Ending :=
  ⟨2, [], ["error: invalid configuration: ".toList ++ error.message]⟩

def ofRun (files : FileTree) (arguments : Arguments) : Except RunError Outcome → Ending
  | .error error =>
      ⟨if error.isAboutSettings then 2 else 1, [], ["error: ".toList ++ error.message]⟩
  | .ok outcome =>
      ⟨0, arguments.output files outcome,
        outcome.diagnostics.map fun diagnostic => "warning: ".toList ++ diagnostic.display⟩

end Ending

def run [Platform] (surroundings : Detection.Surroundings) (arguments : Arguments) : Ending :=
  match arguments.settings surroundings.files with
  | .error error => .ofSettingsError error
  | .ok settings =>
      .ofRun surroundings.files arguments
        (Detection.runHired surroundings settings (arguments.sources surroundings.files) false)

end RepeatScan.CommandLine
