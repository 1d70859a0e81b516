import RepeatScan.CommandLine.LogLevel
import RepeatScan.CommandLine.Program

set_option autoImplicit false

/-! The program: it takes a picture of the files that its arguments name, lets the library work on the
picture, and prints what comes of it. -/

namespace RepeatScan.CommandLine

def spell (names : List Text) : String :=
  String.ofList (['/'] ++ ['/'].intercalate names)

/-- What is at a path, with everything below it if that is wanted; entries that cannot be read are left
out, and so are links. -/
partial def readNode (deep : Bool) (path : String) : IO (Option FileNode) := do
  try
    let place ← IO.FS.realPath path
    if !(← place.isDir) then return some (.file (← IO.FS.readBinFile place))
    if !deep then return some .emptyFolder
    let mut entries : List (Text × FileNode) := []
    for entry in ← place.readDir do
      match (← entry.path.symlinkMetadata).type with
      | .symlink => pure ()
      | .other => pure ()
      | _ =>
          if let some node ← readNode deep (path ++ "/" ++ entry.fileName) then
            entries := (entry.fileName.toList, node) :: entries
    return some (.folder entries)
  catch _ => return none

def addPath (tree : FileTree) (path : Text) : IO FileTree := do
  let stops := FilePath.stops tree.here path
  let mut tree := tree
  for names in stops.dropLast do
    if let some node ← readNode false (spell names) then tree := tree.insertAt names node
  if let some names := stops.getLast? then
    if let some node ← readNode true (spell names) then tree := tree.insertAt names node
  return tree

def picture (arguments : Arguments) : IO FileTree := do
  let here := (FilePath.segments (← IO.currentDir).toString.toList).filter (!FilePath.isIdle ·)
  let start : FileTree := ⟨FileNode.insert .emptyFolder here .emptyFolder, here⟩
  (arguments.config.toList ++ arguments.paths).foldlM addPath start

def usage : String :=
  "Usage: repeat-scan [OPTIONS] <PATHS>...\n\n" ++
    "  -w, --window <N>     Window size in tokens\n" ++
    "  -m, --min <N>        Least number of occurrences\n" ++
    "  -c, --config <FILE>  Settings file\n" ++
    "      --preset <NAME>  Preset: fast, balanced or thorough\n" ++
    "      --ext <EXT>      Only files with this extension; may be repeated\n" ++
    "  -f, --format <NAME>  Output: text, json, csv or pairs\n" ++
    "      --include-text   Add the text of the first occurrence to pairs\n" ++
    "      --no-merge       Report every window\n" ++
    "      --streaming      Collect windows while files are read\n" ++
    "  -j, --jobs <N>       Number of workers\n" ++
    "  -v, --verbose        Say more; may be repeated\n" ++
    "  -h, --help           Show this help\n"

def perform [Platform] (arguments : Arguments) : IO Ending := do
  let files ← picture arguments
  match arguments.settings files with
  | .error error => return .ofSettingsError error
  | .ok settings =>
      let sources := arguments.sources files
      let level := LogLevel.ofDirectives arguments.verbosity
        (((← IO.getEnv "REPEAT_SCAN_LOG").getD "").toList)
      if LogLevel.info.rank ≤ level.rank then
        IO.eprintln ("Scanning " ++ toString sources.length ++ " files")
      let started ← IO.monoMsNow
      match Detection.runHired ⟨files, 1⟩ settings sources false with
      | .error error => return .ofRun files arguments (.error error)
      | .ok outcome =>
          let elapsed := (← IO.monoMsNow) - started
          let statistics := { outcome.statistics with elapsedMilliseconds := elapsed }
          return .ofRun files arguments (.ok { outcome with statistics := statistics })

end RepeatScan.CommandLine

open RepeatScan RepeatScan.CommandLine in
def main (words : List String) : IO UInt32 := do
  match Arguments.ofWords (words.map String.toList) with
  | .error .helpWanted =>
      IO.print usage
      return 0
  | .error _ =>
      IO.eprint usage
      return 2
  | .ok arguments =>
      let ending ← perform arguments
      for complaint in ending.complaints do IO.eprintln (String.ofList complaint)
      IO.print (String.ofList ending.output)
      return ending.exitCode.toUInt32
