import RepeatScan.Text.Decimal

set_option autoImplicit false

/-! What a command line says. An option waits for its value until something else begins, and only
then is the value looked at; so a word that is not known is reported before a value that waits. -/

namespace RepeatScan.CommandLine

/-- How the outcome of a run is written. -/
inductive OutputFormat where
  | text
  | json
  | csv
  | pairs
  deriving DecidableEq, Repr

/-- What a command line tells. -/
structure Arguments where
  window : Option Nat
  minimum : Option Nat
  config : Option Text
  preset : Option Text
  extensions : List Text
  format : Option OutputFormat
  includeText : Bool
  noMerge : Bool
  streaming : Bool
  jobs : Option Nat
  verbosity : Nat
  paths : List Text
  deriving DecidableEq, Repr

def Arguments.empty : Arguments :=
  ⟨none, none, none, none, [], none, false, false, false, none, 0, []⟩

/-- Why a command line cannot be followed. -/
inductive UsageError where
  | unknownArgument
  | unneededValue
  | invalidValue
  | malformedNumber
  | conflict
  | missingPaths
  | helpWanted
  deriving DecidableEq, Repr

/-- The options that take a value. -/
inductive OptionName where
  | window
  | minimum
  | config
  | preset
  | extension
  | format
  | jobs
  deriving DecidableEq, Repr

/-- The switches, which take none. -/
inductive SwitchName where
  | includeText
  | noMerge
  | streaming
  | verbose
  | help
  deriving DecidableEq, Repr

/-- An option or a switch. -/
inductive Flag where
  | option (name : OptionName)
  | switch (name : SwitchName)
  deriving DecidableEq, Repr

def longFlags : List (Text × Flag) :=
  [ ("window".toList, .option .window), ("min".toList, .option .minimum),
    ("config".toList, .option .config), ("preset".toList, .option .preset),
    ("ext".toList, .option .extension), ("format".toList, .option .format),
    ("jobs".toList, .option .jobs), ("include-text".toList, .switch .includeText),
    ("no-merge".toList, .switch .noMerge), ("streaming".toList, .switch .streaming),
    ("verbose".toList, .switch .verbose), ("help".toList, .switch .help) ]

def shortFlags : List (Char × Flag) :=
  [ ('w', .option .window), ('m', .option .minimum), ('c', .option .config),
    ('f', .option .format), ('j', .option .jobs), ('v', .switch .verbose), ('h', .switch .help) ]

def formats : List (Text × OutputFormat) :=
  [ ("text".toList, .text), ("json".toList, .json), ("csv".toList, .csv),
    ("pairs".toList, .pairs) ]

namespace Arguments

def verbosityLimit : Nat := 255

def number (value : Text) : Except UsageError Nat :=
  (Text.natural? UInt64.size value).elim (.error .malformedNumber) .ok

def path (value : Text) : Except UsageError Text :=
  if value.isEmpty then .error .invalidValue else .ok value

def outputFormat (value : Text) : Except UsageError OutputFormat :=
  (formats.lookup value).elim (.error .invalidValue) .ok

def once {α : Type} (given : Option α) (value : Except UsageError α) :
    Except UsageError (Option α) :=
  if given.isSome then .error .conflict else value.map some

def setOption (arguments : Arguments) (value : Text) : OptionName → Except UsageError Arguments
  | .window => do return { arguments with window := ← once arguments.window (number value) }
  | .minimum => do return { arguments with minimum := ← once arguments.minimum (number value) }
  | .config => do return { arguments with config := ← once arguments.config (path value) }
  | .preset => do return { arguments with preset := ← once arguments.preset (.ok value) }
  | .extension => .ok { arguments with extensions := arguments.extensions ++ [value] }
  | .format => do return { arguments with format := ← once arguments.format (outputFormat value) }
  | .jobs => do return { arguments with jobs := ← once arguments.jobs (number value) }

def setSwitch (arguments : Arguments) : SwitchName → Except UsageError Arguments
  | .includeText =>
      if arguments.includeText then .error .conflict
      else .ok { arguments with includeText := true }
  | .noMerge =>
      if arguments.noMerge then .error .conflict else .ok { arguments with noMerge := true }
  | .streaming =>
      if arguments.streaming then .error .conflict else .ok { arguments with streaming := true }
  | .verbose =>
      .ok { arguments with verbosity := min verbosityLimit (arguments.verbosity + 1) }
  | .help => .error .helpWanted

def addPaths (arguments : Arguments) (values : List Text) : Except UsageError Arguments := do
  return { arguments with paths := arguments.paths ++ (← values.mapM path) }

end Arguments

/-- What was read but not looked at yet. -/
inductive Pending where
  | nothing
  | option (name : OptionName) (value : Option Text)
  | paths (values : List Text)
  deriving DecidableEq, Repr

/-- What a part of a command line says. -/
structure Reading where
  taken : Arguments
  pending : Pending
  deriving DecidableEq, Repr

namespace Reading

def start : Reading := ⟨.empty, .nothing⟩

def settle (reading : Reading) : Except UsageError Arguments :=
  match reading.pending with
  | .nothing => .ok reading.taken
  | .option _ none => .error .invalidValue
  | .option name (some value) => reading.taken.setOption value name
  | .paths values => reading.taken.addPaths values

def takePath (reading : Reading) (value : Text) : Except UsageError Reading :=
  match reading.pending with
  | .paths values => .ok { reading with pending := .paths (values ++ [value]) }
  | _ => do return ⟨← reading.settle, .paths [value]⟩

/-- Reads a word that is no flag: the value that an option waits for, or a path. -/
def takeWord (reading : Reading) (value : Text) : Except UsageError Reading :=
  match reading.pending with
  | .option name none => .ok { reading with pending := .option name (some value) }
  | _ => reading.takePath value

def takeOption (reading : Reading) (name : OptionName) (attached : Option Text) :
    Except UsageError Reading := do
  let taken ← reading.settle
  match attached with
  | none => return ⟨taken, .option name none⟩
  | some value => return ⟨← taken.setOption value name, .nothing⟩

def takeSwitch (reading : Reading) (name : SwitchName) : Except UsageError Reading := do
  return ⟨← (← reading.settle).setSwitch name, .nothing⟩

/-- Reads a flag by its long name, perhaps with a value behind an equals sign. -/
def takeLong (reading : Reading) (spelled : Text) : Except UsageError Reading :=
  let name := spelled.takeWhile (· != '=')
  let attached := match spelled.dropWhile (· != '=') with
    | [] => none
    | _ :: value => some value
  match longFlags.lookup name, attached with
  | none, _ => .error .unknownArgument
  | some (.option option), attached => reading.takeOption option attached
  | some (.switch switch), none => reading.takeSwitch switch
  | some (.switch _), some _ => .error .unneededValue

/-- The value that stands right behind the letter of an option. -/
def attachedValue : Text → Option Text
  | [] => none
  | '=' :: value => some value
  | value => some value

/-- Reads flags by their letters. An option takes the rest of the letters for its value. -/
def takeShort (reading : Reading) : Text → Except UsageError Reading
  | [] => .ok reading
  | letter :: rest =>
      match shortFlags.lookup letter with
      | none => .error .unknownArgument
      | some (.option option) => reading.takeOption option (attachedValue rest)
      | some (.switch switch) => do takeShort (← reading.takeSwitch switch) rest

/-- Reads the words of a command line; behind two dashes all words are paths. -/
def takeAll (reading : Reading) : List Text → Except UsageError Reading
  | [] => .ok reading
  | ['-', '-'] :: later => later.foldlM takePath reading
  | ('-' :: '-' :: spelled) :: later => do takeAll (← reading.takeLong spelled) later
  | ('-' :: letter :: letters) :: later => do
      takeAll (← reading.takeShort (letter :: letters)) later
  | word :: later => do takeAll (← reading.takeWord word) later

end Reading

/-- What a command line says: a preset and a settings file exclude each other, and there has to be a
path. -/
def Arguments.ofWords (words : List Text) : Except UsageError Arguments := do
  let arguments ← (← Reading.start.takeAll words).settle
  if arguments.preset.isSome && arguments.config.isSome then throw .conflict
  if arguments.paths.isEmpty then throw .missingPaths
  return arguments

end RepeatScan.CommandLine
