import RepeatScan.Settings.Patch
import RepeatScan.Yaml.Decode
import RepeatScan.Yaml.Document
import RepeatScan.Yaml.Layout

set_option autoImplicit false

/-! Settings files in YAML. A file that is empty says nothing, and so does one field that is; what is not
a settings file at all is malformed. -/

namespace RepeatScan.Yaml

def patchFields : List (Field SettingsPatch) :=
  [ optionalField "window_size" (Node.readNat UInt64.size) fun patch value =>
      { patch with windowSize := value },
    optionalField "min_occurrences" (Node.readNat UInt64.size) fun patch value =>
      { patch with minOccurrences := value },
    optionalField "comment_markers" (Node.readList Node.readText) fun patch value =>
      { patch with commentMarkers := value },
    optionalField "strip_block_comments" Node.readBool fun patch value =>
      { patch with stripBlocks := value },
    optionalField "placeholder" Node.readText fun patch value =>
      { patch with placeholder := value },
    optionalField "merge_overlapping" Node.readBool fun patch value =>
      { patch with mergeOverlaps := value },
    optionalField "verify_content" Node.readBool fun patch value =>
      { patch with verifyContent := value },
    optionalField "streaming" Node.readBool fun patch value =>
      { patch with streaming := value },
    optionalField "max_workers" (Node.readNat UInt64.size) fun patch value =>
      { patch with maxWorkers := value } ]

def Node.readPatch : Node → Option SettingsPatch :=
  readRecord patchFields .empty

def fileFields : List (Field SettingsFile) :=
  [ optionalField "version" (Node.readNat UInt32.size) fun file value =>
      { file with version := value },
    optionalField "preset" Node.readText fun file value =>
      { file with preset := value },
    optionalField "overrides" Node.readPatch fun file value =>
      { file with overrides := value } ]

def emptyFile : SettingsFile := ⟨none, none, none⟩

def Node.readFile : Node → Option SettingsFile :=
  readRecord fileFields emptyFile

def file? (text : Text) : Option SettingsFile := do
  match ← document? text with
  | none => return emptyFile
  | some node => node.readFile

def readSettings (text : Text) : Except SettingsError Settings :=
  match file? text with
  | some file => file.settings
  | none => .error .malformed

def givenField {α : Type} (name : String) (write : α → Value) (given : Option α) :
    List (Text × Value) :=
  given.toList.map fun value => (name.toList, write value)

def ofNat (number : Nat) : Value :=
  .word (Text.decimal number)

def ofBool (value : Bool) : Value :=
  .word (if value then "true".toList else "false".toList)

def ofPatch (patch : SettingsPatch) : Value :=
  .record
    (givenField "window_size" ofNat patch.windowSize ++
      givenField "min_occurrences" ofNat patch.minOccurrences ++
      givenField "comment_markers" .texts patch.commentMarkers ++
      givenField "strip_block_comments" ofBool patch.stripBlocks ++
      givenField "placeholder" .text patch.placeholder ++
      givenField "merge_overlapping" ofBool patch.mergeOverlaps ++
      givenField "verify_content" ofBool patch.verifyContent ++
      givenField "streaming" ofBool patch.streaming ++
      givenField "max_workers" ofNat patch.maxWorkers)

def fieldsOfFile (file : SettingsFile) : List (Text × Value) :=
  givenField "version" ofNat file.version ++ givenField "preset" .text file.preset ++
    givenField "overrides" ofPatch file.overrides

def writeFile (file : SettingsFile) : Text :=
  Value.fieldLines 0 (fieldsOfFile file)

def writeSettings (settings : Settings) : Text :=
  writeFile (.ofSettings settings)

end RepeatScan.Yaml
